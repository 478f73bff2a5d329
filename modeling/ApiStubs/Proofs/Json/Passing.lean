import ApiStubs.Proofs.Json.Literal
import ApiStubs.Proofs.Json.Numeral

/-!
# Values that are passed over

The reader of unknown members keeps its open brackets in a list.  It passes over exactly the trees:
in front of a tree it stands after the tree a bounded number of steps later, with the same brackets
open, and where it has come to stand there was a tree in front.
-/

namespace ApiStubs.Json

/-! ## Induction over trees -/

/-- A statement about trees follows from the same statement about the elements of a list and the
values of an object. -/
theorem Tree.induction {motive : Tree → Prop} (null : motive .null) (bool : ∀ b, motive (.bool b))
    (number : ∀ n, motive (.number n)) (text : ∀ us, motive (.text us))
    (list : ∀ items, (∀ t ∈ items, motive t) → motive (.list items))
    (object : ∀ members, (∀ m ∈ members, motive m.2) → motive (.object members)) :
    ∀ t, motive t
  | .null => null
  | .bool b => bool b
  | .number n => number n
  | .text us => text us
  | .list items => list items fun t ht =>
      have := List.sizeOf_lt_of_mem ht
      Tree.induction null bool number text list object t
  | .object members => object members fun m hm =>
      have := List.sizeOf_lt_of_mem hm
      have : sizeOf m.2 < sizeOf m := by
        rw [Prod.mk.sizeOf_spec m.1 m.2]
        omega
      Tree.induction null bool number text list object m.2
termination_by t => sizeOf t

theorem solid_cons {b : UInt8} (h : isSpace b = false) (rest : Bytes) : Solid (b :: rest) :=
  ⟨b, rest, rfl, h⟩

theorem isSpace_of_isDigit {d : UInt8} (h : isDigit d = true) : isSpace d = false := by
  have hlow := (toNat_of_digit h).1
  simp only [isSpace, Bool.or_eq_false_iff, beq_eq_false_iff_ne]
  refine ⟨⟨⟨?_, ?_⟩, ?_⟩, ?_⟩ <;> (rintro rfl; exact absurd hlow (by decide))

theorem NumberLiteral.solid_bytes (n : NumberLiteral) : Solid n.bytes := by
  cases hnegative : n.negative with
  | true => exact ⟨0x2D, n.unsigned, by simp [NumberLiteral.bytes, hnegative], by decide⟩
  | false =>
      obtain ⟨d, more, hwhole, hd⟩ := n.whole_valid.head
      exact ⟨d, more ++ n.tail,
        by simp [NumberLiteral.bytes, NumberLiteral.unsigned, hnegative, hwhole],
        isSpace_of_isDigit hd⟩

theorem solid_quoted (us : List TextUnit) : Solid (Tree.quoted us) := solid_cons (by decide) _

theorem Tree.solid_itemTokens {items : List Tree}
    (h : ∀ t ∈ items, ∀ tok ∈ t.tokens, Solid tok) :
    ∀ (first : Bool), ∀ tok ∈ itemTokens first items, Solid tok := by
  induction items with
  | nil =>
      intro first tok htok
      rw [itemTokens, List.mem_singleton] at htok
      rw [htok]
      exact solid_cons (by decide) _
  | cons t items ih =>
      intro first tok htok
      rw [itemTokens] at htok
      simp only [List.mem_append] at htok
      rcases htok with htok | htok | htok
      · cases first with
        | true => cases htok
        | false =>
            rw [if_neg (by decide), List.mem_singleton] at htok
            rw [htok]
            exact solid_cons (by decide) _
      · exact h t List.mem_cons_self tok htok
      · exact ih (fun x hx => h x (List.mem_cons_of_mem _ hx)) false tok htok

theorem Tree.solid_memberTokens {members : List (List TextUnit × Tree)}
    (h : ∀ m ∈ members, ∀ tok ∈ m.2.tokens, Solid tok) :
    ∀ (first : Bool), ∀ tok ∈ memberTokens first members, Solid tok := by
  induction members with
  | nil =>
      intro first tok htok
      rw [memberTokens, List.mem_singleton] at htok
      rw [htok]
      exact solid_cons (by decide) _
  | cons m members ih =>
      intro first tok htok
      obtain ⟨name, t⟩ := m
      rw [memberTokens] at htok
      simp only [List.mem_append, List.mem_cons] at htok
      rcases htok with htok | rfl | rfl | htok | htok
      · cases first with
        | true => cases htok
        | false =>
            rw [if_neg (by decide), List.mem_singleton] at htok
            rw [htok]
            exact solid_cons (by decide) _
      · exact solid_quoted name
      · exact solid_cons (by decide) _
      · exact h (name, t) List.mem_cons_self tok htok
      · exact ih (fun x hx => h x (List.mem_cons_of_mem _ hx)) false tok htok

/-- No token of a tree starts with a blank. -/
theorem Tree.solid_tokens (t : Tree) : ∀ tok ∈ t.tokens, Solid tok := by
  induction t using Tree.induction with
  | null =>
      intro tok htok
      rw [tokens, List.mem_singleton] at htok
      rw [htok]
      exact solid_cons (by decide) _
  | bool b =>
      intro tok htok
      cases b <;>
        (rw [tokens, List.mem_singleton] at htok; rw [htok]; exact solid_cons (by decide) _)
  | number n =>
      intro tok htok
      rw [tokens, List.mem_singleton] at htok
      rw [htok]
      exact n.solid_bytes
  | text us =>
      intro tok htok
      rw [tokens, List.mem_singleton] at htok
      rw [htok]
      exact solid_quoted us
  | list items ih =>
      intro tok htok
      rw [tokens, List.mem_cons] at htok
      rcases htok with rfl | htok
      · exact solid_cons (by decide) _
      · exact solid_itemTokens ih true tok htok
  | object members ih =>
      intro tok htok
      rw [tokens, List.mem_cons] at htok
      rcases htok with rfl | htok
      · exact solid_cons (by decide) _
      · exact solid_memberTokens ih true tok htok

/-! ## What a tree starts with -/

/-- The octet that a tree starts with. -/
def Tree.lead : Tree → UInt8
  | .null => 0x6E
  | .bool true => 0x74
  | .bool false => 0x66
  | .number n => if n.negative then 0x2D else n.whole.headD 0x30
  | .text _ => 0x22
  | .list _ => 0x5B
  | .object _ => 0x7B

theorem Tree.lead_number_eq (n : NumberLiteral) :
    (Tree.number n).lead = if n.negative then 0x2D else n.whole.headD 0x30 := rfl

theorem Tree.lead_number (n : NumberLiteral) :
    (Tree.number n).lead = 0x2D ∨ isDigit (Tree.number n).lead = true := by
  rw [lead_number_eq]
  cases n.negative with
  | true => exact .inl rfl
  | false =>
      obtain ⟨d, more, hwhole, hd⟩ := n.whole_valid.head
      rw [hwhole]
      exact .inr hd

/-- What starts neither with a sign nor with a digit is no number. -/
theorem Tree.lead_number_ne (n : NumberLiteral) {b : UInt8} (hsign : b ≠ 0x2D)
    (hdigit : isDigit b = false) : (Tree.number n).lead ≠ b := by
  rcases lead_number n with h | h
  · rw [h]
    exact hsign.symm
  · rintro rfl
    rw [h] at hdigit
    cases hdigit

theorem Tree.tokens_eq_lead (t : Tree) : ∃ more ts, t.tokens = (t.lead :: more) :: ts := by
  cases t with
  | null => exact ⟨nullTail, [], by rw [tokens]; rfl⟩
  | bool b =>
      cases b with
      | true => exact ⟨trueTail, [], by rw [tokens]; rfl⟩
      | false => exact ⟨falseTail, [], by rw [tokens]; rfl⟩
  | number n =>
      rw [tokens, lead_number_eq, NumberLiteral.bytes]
      cases n.negative with
      | true => exact ⟨n.unsigned, [], rfl⟩
      | false =>
          obtain ⟨d, more, hwhole, -⟩ := n.whole_valid.head
          exact ⟨more ++ n.tail, [], by rw [NumberLiteral.unsigned, hwhole]; rfl⟩
  | text us => exact ⟨_, [], by rw [tokens, quoted]; rfl⟩
  | list items => exact ⟨[], _, by rw [tokens]; rfl⟩
  | object members => exact ⟨[], _, by rw [tokens]; rfl⟩

theorem Tree.isSpace_lead (t : Tree) : isSpace t.lead = false := by
  obtain ⟨more, ts, htokens⟩ := t.tokens_eq_lead
  obtain ⟨b, rest, heq, hb⟩ := t.solid_tokens (t.lead :: more) (by simp [htokens])
  cases heq
  exact hb

theorem Tree.lead_ne_close (t : Tree) : t.lead ≠ 0x5D := by
  cases t with
  | number n => exact lead_number_ne n (by decide) (by decide)
  | bool b => cases b <;> (rw [lead]; decide)
  | _ => rw [lead]; decide

/-- Past the blanks a text starts with what its tree starts with. -/
theorem Tree.skipSpace_of_spaced {t : Tree} {ts : List Bytes} {bytes : Bytes}
    (h : Spaced (t.tokens ++ ts) bytes) :
    ∃ rest, skipSpace bytes = t.lead :: rest ∧ Spaced (t.tokens ++ ts) (t.lead :: rest) := by
  obtain ⟨more, toks, htokens⟩ := t.tokens_eq_lead
  rw [htokens, List.cons_append] at h ⊢
  obtain ⟨rest, hskip, hrest⟩ := h.skipSpace_eq ⟨t.lead, more, rfl, t.isSpace_lead⟩
  exact ⟨more ++ rest, hskip, .of_skipSpace (skipSpace_cons t.isSpace_lead _) hrest⟩

/-! ## Scalars -/

theorem expectWord_append (word rest : Bytes) : expectWord word (word ++ rest) = .ok rest := by
  induction word with
  | nil => cases rest <;> rfl
  | cons w word ih => simpa [expectWord] using ih

theorem eq_append_of_expectWord {word bytes rest : Bytes} (h : expectWord word bytes = .ok rest) :
    bytes = word ++ rest := by
  induction word generalizing bytes with
  | nil =>
      cases bytes <;> (cases h; rfl)
  | cons w word ih =>
      cases bytes with
      | nil => cases h
      | cons b bytes =>
          rw [expectWord] at h
          split at h
          · rename_i hb
            rw [hb, ih h]
            rfl
          · cases h

/-- The trees without brackets. -/
def Tree.IsScalar : Tree → Prop
  | .list _ => False
  | .object _ => False
  | _ => True

theorem skipHead_number (n : NumberLiteral) {rest : Bytes} (hrest : Separated rest) :
    skipHead (n.bytes ++ rest) = .ok (none, rest) := by
  have hskip := skipNumber_append n hrest
  cases hnegative : n.negative with
  | true =>
      rw [NumberLiteral.bytes, hnegative, if_pos rfl, List.append_assoc, List.cons_append,
        List.nil_append, skipHead.eq_def]
      simp [skipHead.withRestOf, hskip]
  | false =>
      obtain ⟨d, more, hwhole, hd⟩ := n.whole_valid.head
      have hne := ne_of_isDigit hd
      have hword : d ≠ 0x6E ∧ d ≠ 0x74 ∧ d ≠ 0x66 := by
        refine ⟨?_, ?_, ?_⟩ <;> (rintro rfl; exact absurd hd (by decide))
      rw [NumberLiteral.bytes, hnegative, if_neg (by decide), List.nil_append]
      rw [NumberLiteral.unsigned, hwhole, List.cons_append, List.cons_append] at hskip ⊢
      rw [skipHead, if_neg hword.1, if_neg hword.2.1, if_neg hword.2.2, if_neg hne.2.1, if_pos hd,
        hskip]
      rfl

/-- A scalar in front is passed over as one token. -/
theorem skipHead_scalar {t : Tree} (h : t.IsScalar) :
    ∃ tok, t.tokens = [tok] ∧
      ∀ rest, Separated rest → skipHead (tok ++ rest) = .ok (none, rest) := by
  cases t with
  | null =>
      refine ⟨_, by rw [Tree.tokens], fun rest _ => ?_⟩
      show skipHead.withRestOf (expectWord nullTail (nullTail ++ rest)) = _
      rw [expectWord_append]
      rfl
  | bool b =>
      cases b with
      | true =>
          refine ⟨_, by rw [Tree.tokens], fun rest _ => ?_⟩
          show skipHead.withRestOf (expectWord trueTail (trueTail ++ rest)) = _
          rw [expectWord_append]
          rfl
      | false =>
          refine ⟨_, by rw [Tree.tokens], fun rest _ => ?_⟩
          show skipHead.withRestOf (expectWord falseTail (falseTail ++ rest)) = _
          rw [expectWord_append]
          rfl
  | number n => exact ⟨_, by rw [Tree.tokens], fun rest hrest => skipHead_number n hrest⟩
  | text us =>
      refine ⟨_, by rw [Tree.tokens], fun rest _ => ?_⟩
      show skipHead.withRestOf (skipText .plain ((TextUnit.allBytes us ++ [0x22]) ++ rest)) = _
      rw [List.append_assoc, List.cons_append, List.nil_append, skipText_units]
      rfl
  | list items => exact h.elim
  | object members => exact h.elim

theorem of_withRestOf {result : Except Fault Bytes} {bracket : Option Bracket} {rest : Bytes}
    (h : skipHead.withRestOf result = .ok (bracket, rest)) :
    bracket = none ∧ result = .ok rest := by
  unfold skipHead.withRestOf at h
  split at h
  · cases h
  · cases h; exact ⟨rfl, rfl⟩

/-- The octet that opens a bracket. -/
def Bracket.opening : Bracket → UInt8
  | .list => 0x5B
  | .object => 0x7B

/-- What stands in front of octets that a value starts with: a scalar, or an opening bracket. -/
def StartsWith (bytes rest : Bytes) : Option Bracket → Prop
  | none => ∃ t tok, Tree.tokens t = [tok] ∧ bytes = tok ++ rest
  | some bracket => bytes = bracket.opening :: rest

theorem startsWith_of_skipHead {bytes rest : Bytes} {bracket : Option Bracket}
    (h : skipHead bytes = .ok (bracket, rest)) : StartsWith bytes rest bracket := by
  cases bytes with
  | nil => cases h
  | cons b more =>
      rw [skipHead] at h
      split at h
      · rename_i hb
        obtain ⟨rfl, hword⟩ := of_withRestOf h
        exact ⟨.null, _, by rw [Tree.tokens], by rw [hb, eq_append_of_expectWord hword]; rfl⟩
      split at h
      · rename_i hb
        obtain ⟨rfl, hword⟩ := of_withRestOf h
        exact ⟨.bool true, _, by rw [Tree.tokens], by rw [hb, eq_append_of_expectWord hword]; rfl⟩
      split at h
      · rename_i hb
        obtain ⟨rfl, hword⟩ := of_withRestOf h
        exact ⟨.bool false, _, by rw [Tree.tokens], by rw [hb, eq_append_of_expectWord hword]; rfl⟩
      split at h
      · rename_i hb
        obtain ⟨rfl, hnumber⟩ := of_withRestOf h
        obtain ⟨n, hn, hmore⟩ := exists_literal_of_skipNumber true hnumber
        exact ⟨.number n, _, by rw [Tree.tokens], by simp [NumberLiteral.bytes, hn, hb, hmore]⟩
      split at h
      · obtain ⟨rfl, hnumber⟩ := of_withRestOf h
        obtain ⟨n, hn, hmore⟩ := exists_literal_of_skipNumber false hnumber
        exact ⟨.number n, _, by rw [Tree.tokens], by simp [NumberLiteral.bytes, hn, hmore]⟩
      split at h
      · rename_i hb
        obtain ⟨rfl, htext⟩ := of_withRestOf h
        obtain ⟨us, hus⟩ := exists_units_of_skipText more .plain (by simp) htext
        have hmore : more = TextUnit.allBytes us ++ 0x22 :: rest := hus
        exact ⟨.text us, _, by rw [Tree.tokens], by simp [Tree.quoted, hb, hmore]⟩
      split at h
      · rename_i hb
        cases h
        exact congrArg (· :: rest) hb
      split at h
      · rename_i hb
        cases h
        exact congrArg (· :: rest) hb
      · cases h

/-! ## What the machine passes over -/

/-- In `k` steps the machine closes the brackets `opened` and stands at `rest`, whatever else is
open. -/
def Moves (k : Nat) (due : Due) (opened : List Bracket) (bytes rest : Bytes) : Prop :=
  ∀ fuel stack, skipDue (fuel + k) due (opened ++ stack) bytes = skipDue fuel .next stack rest

theorem moves_zero (rest : Bytes) : Moves 0 .next [] rest rest := fun _ _ => rfl

theorem Moves.step {k : Nat} {due due' : Due} {opened opened' : List Bracket}
    {bytes bytes' rest : Bytes} (h : Moves k due' opened' bytes' rest)
    (hstep : ∀ fuel stack, skipDue (fuel + 1) due (opened ++ stack) bytes =
      skipDue fuel due' (opened' ++ stack) bytes') : Moves (k + 1) due opened bytes rest := by
  intro fuel stack
  rw [← Nat.add_assoc, hstep]
  exact h fuel stack

/-- A value inside brackets, and then what closes the brackets. -/
theorem Moves.after_value {j k : Nat} {opened : List Bracket} {bytes middle rest : Bytes}
    (hvalue : Moves j .value [] bytes middle) (h : Moves k .next opened middle rest) :
    Moves (k + j) .value opened bytes rest := by
  intro fuel stack
  rw [← Nat.add_assoc]
  exact (hvalue (fuel + k) (opened ++ stack)).trans (h fuel stack)

/-- The machine passes over a tree in at most two steps for each token. -/
def Passes (t : Tree) : Prop :=
  ∀ ts bytes, Ends ts → Spaced (t.tokens ++ ts) bytes →
    ∃ k rest, k ≤ 2 * t.tokens.length ∧ Spaced ts rest ∧ Moves k .value [] bytes rest

theorem passes_scalar {t : Tree} (h : t.IsScalar) : Passes t := by
  intro ts bytes hts hspaced
  obtain ⟨tok, htok, hhead⟩ := skipHead_scalar h
  rw [htok] at hspaced ⊢
  obtain ⟨rest, hskip, hrest⟩ := hspaced.skipSpace_eq (t.solid_tokens tok (by simp [htok]))
  refine ⟨1, rest, by simp, hrest, (moves_zero rest).step fun fuel stack => ?_⟩
  rw [skipDue, hskip, hhead rest (hrest.separated hts)]

section

variable {stack : List Bracket} {bytes rest : Bytes} (fuel : Nat)

theorem skipDue_first_close {bracket : Bracket} (h : skipSpace bytes = bracket.close :: rest) :
    skipDue (fuel + 1) .first (bracket :: stack) bytes = skipDue fuel .next stack rest := by
  rw [skipDue]
  simp [h]

theorem skipDue_first_item {bracket : Bracket} {b : UInt8} (h : skipSpace bytes = b :: rest)
    (hb : b ≠ bracket.close) :
    skipDue (fuel + 1) .first (bracket :: stack) bytes =
      skipDue fuel bracket.item (bracket :: stack) (b :: rest) := by
  rw [skipDue]
  simp [h, hb]

theorem skipDue_next_close {bracket : Bracket} (h : skipSpace bytes = bracket.close :: rest) :
    skipDue (fuel + 1) .next (bracket :: stack) bytes = skipDue fuel .next stack rest := by
  rw [skipDue]
  cases bracket <;> simp [h, Bracket.close]

theorem skipDue_next_comma {bracket : Bracket} (h : skipSpace bytes = 0x2C :: rest) :
    skipDue (fuel + 1) .next (bracket :: stack) bytes =
      skipDue fuel bracket.item (bracket :: stack) rest := by
  rw [skipDue]
  simp [h]

theorem skipDue_open {bracket : Bracket} (h : skipSpace bytes = bracket.opening :: rest) :
    skipDue (fuel + 1) .value stack bytes = skipDue fuel .first (bracket :: stack) rest := by
  rw [skipDue, h]
  cases bracket <;> rfl

end

/-- A written name and the colon after it. -/
theorem skipKey_of_spaced {name : List TextUnit} {ts : List Bytes} {bytes : Bytes}
    (h : Spaced (Tree.quoted name :: [0x3A] :: ts) bytes) :
    ∃ rest, skipKey bytes = .ok rest ∧ Spaced ts rest := by
  obtain ⟨after, hname, hafter⟩ := h.skipSpace_eq (solid_quoted name)
  obtain ⟨rest, hcolon, hrest⟩ := hafter.skipSpace_octet (by decide)
  refine ⟨rest, ?_, hrest⟩
  rw [skipKey, hname, Tree.quoted, List.cons_append, List.append_assoc, List.cons_append,
    List.nil_append]
  simp [skipText_units, hcolon]

theorem passes_items {items : List Tree} (h : ∀ t ∈ items, Passes t) :
    ∀ ts bytes, Spaced (Tree.itemTokens false items ++ ts) bytes →
      ∃ k rest, k ≤ 2 * (Tree.itemTokens false items).length ∧ Spaced ts rest ∧
        Moves k .next [.list] bytes rest := by
  induction items with
  | nil =>
      intro ts bytes hspaced
      rw [Tree.itemTokens] at hspaced ⊢
      obtain ⟨rest, hskip, hrest⟩ := hspaced.skipSpace_octet (by decide)
      exact ⟨1, rest, by simp, hrest,
        (moves_zero rest).step fun fuel stack => skipDue_next_close fuel hskip⟩
  | cons t items ih =>
      intro ts bytes hspaced
      rw [Tree.itemTokens, if_neg (by decide), List.append_assoc, List.append_assoc] at hspaced
      obtain ⟨start, hcomma, hstart⟩ := hspaced.skipSpace_octet (by decide)
      obtain ⟨j, middle, hj, hmiddle, hvalue⟩ :=
        h t List.mem_cons_self _ start (ends_itemTokens items ts) hstart
      obtain ⟨k, rest, hk, hrest, hitems⟩ :=
        ih (fun x hx => h x (List.mem_cons_of_mem _ hx)) ts middle hmiddle
      refine ⟨k + j + 1, rest, ?_, hrest,
        (hvalue.after_value hitems).step fun fuel stack => skipDue_next_comma fuel hcomma⟩
      rw [Tree.itemTokens, if_neg (by decide)]
      simp only [List.length_append, List.length_cons, List.length_nil]
      omega

theorem passes_members {members : List (List TextUnit × Tree)} (h : ∀ m ∈ members, Passes m.2) :
    ∀ ts bytes, Spaced (Tree.memberTokens false members ++ ts) bytes →
      ∃ k rest, k ≤ 2 * (Tree.memberTokens false members).length ∧ Spaced ts rest ∧
        Moves k .next [.object] bytes rest := by
  induction members with
  | nil =>
      intro ts bytes hspaced
      rw [Tree.memberTokens] at hspaced ⊢
      obtain ⟨rest, hskip, hrest⟩ := hspaced.skipSpace_octet (by decide)
      exact ⟨1, rest, by simp, hrest,
        (moves_zero rest).step fun fuel stack => skipDue_next_close fuel hskip⟩
  | cons m members ih =>
      obtain ⟨name, t⟩ := m
      intro ts bytes hspaced
      rw [Tree.memberTokens, if_neg (by decide)] at hspaced
      simp only [List.cons_append, List.nil_append, List.append_assoc] at hspaced
      obtain ⟨named, hcomma, hnamed⟩ := hspaced.skipSpace_octet (by decide)
      obtain ⟨start, hkey, hstart⟩ := skipKey_of_spaced hnamed
      obtain ⟨j, middle, hj, hmiddle, hvalue⟩ :=
        h (name, t) List.mem_cons_self _ start (ends_memberTokens members ts) hstart
      obtain ⟨k, rest, hk, hrest, hmembers⟩ :=
        ih (fun x hx => h x (List.mem_cons_of_mem _ hx)) ts middle hmiddle
      have hmember : Moves (k + j + 1) .key [.object] named rest :=
        (hvalue.after_value hmembers).step fun fuel stack => by rw [skipDue, hkey]
      refine ⟨k + j + 1 + 1, rest, ?_, hrest,
        hmember.step fun fuel stack => skipDue_next_comma fuel hcomma⟩
      rw [Tree.memberTokens, if_neg (by decide)]
      simp only [List.length_append, List.length_cons, List.length_nil]
      simp only at hj
      omega

theorem passes_list {items : List Tree} (h : ∀ t ∈ items, Passes t) : Passes (.list items) := by
  intro ts bytes _ hspaced
  rw [Tree.tokens, List.cons_append] at hspaced
  obtain ⟨start, hopen, hstart⟩ := hspaced.skipSpace_octet (by decide)
  have hopened : ∀ fuel stack, skipDue (fuel + 1) .value ([] ++ stack) bytes =
      skipDue fuel .first ([.list] ++ stack) start := fun fuel stack => skipDue_open fuel hopen
  cases items with
  | nil =>
      rw [Tree.itemTokens] at hstart
      obtain ⟨rest, hclose, hrest⟩ := hstart.skipSpace_octet (by decide)
      have hempty : Moves 1 .first [.list] start rest :=
        (moves_zero rest).step fun fuel stack => skipDue_first_close fuel hclose
      exact ⟨2, rest, by rw [Tree.tokens, Tree.itemTokens]; simp, hrest, hempty.step hopened⟩
  | cons t items =>
      rw [Tree.itemTokens, if_pos rfl, List.nil_append, List.append_assoc] at hstart
      obtain ⟨more, hskip, hmore⟩ := Tree.skipSpace_of_spaced hstart
      obtain ⟨j, middle, hj, hmiddle, hvalue⟩ :=
        h t List.mem_cons_self _ _ (ends_itemTokens items ts) hmore
      obtain ⟨k, rest, hk, hrest, hitems⟩ :=
        passes_items (fun x hx => h x (List.mem_cons_of_mem _ hx)) ts middle hmiddle
      have hfirst : Moves (k + j + 1) .first [.list] start rest :=
        (hvalue.after_value hitems).step fun fuel stack => skipDue_first_item fuel hskip
          t.lead_ne_close
      refine ⟨k + j + 1 + 1, rest, ?_, hrest, hfirst.step hopened⟩
      rw [Tree.tokens, Tree.itemTokens, if_pos rfl]
      simp only [List.length_append, List.length_cons, List.length_nil]
      omega

theorem passes_object {members : List (List TextUnit × Tree)} (h : ∀ m ∈ members, Passes m.2) :
    Passes (.object members) := by
  intro ts bytes _ hspaced
  rw [Tree.tokens, List.cons_append] at hspaced
  obtain ⟨start, hopen, hstart⟩ := hspaced.skipSpace_octet (by decide)
  have hopened : ∀ fuel stack, skipDue (fuel + 1) .value ([] ++ stack) bytes =
      skipDue fuel .first ([.object] ++ stack) start := fun fuel stack => skipDue_open fuel hopen
  cases members with
  | nil =>
      rw [Tree.memberTokens] at hstart
      obtain ⟨rest, hclose, hrest⟩ := hstart.skipSpace_octet (by decide)
      have hempty : Moves 1 .first [.object] start rest :=
        (moves_zero rest).step fun fuel stack => skipDue_first_close fuel hclose
      exact ⟨2, rest, by rw [Tree.tokens, Tree.memberTokens]; simp, hrest, hempty.step hopened⟩
  | cons m members =>
      obtain ⟨name, t⟩ := m
      rw [Tree.memberTokens, if_pos rfl] at hstart
      simp only [List.cons_append, List.nil_append, List.append_assoc] at hstart
      obtain ⟨more, hskip, hmore⟩ := hstart.skipSpace_eq (solid_quoted name)
      have hquote : skipSpace start = 0x22 :: (TextUnit.allBytes name ++ [0x22] ++ more) := hskip
      have hnamed := Spaced.of_skipSpace ((solid_quoted name).skipSpace_append more) hmore
      obtain ⟨value, hkey, hvalue⟩ := skipKey_of_spaced hnamed
      obtain ⟨j, middle, hj, hmiddle, hpassed⟩ :=
        h (name, t) List.mem_cons_self _ _ (ends_memberTokens members ts) hvalue
      obtain ⟨k, rest, hk, hrest, hmembers⟩ :=
        passes_members (fun x hx => h x (List.mem_cons_of_mem _ hx)) ts middle hmiddle
      have hmember : Moves (k + j + 1) .key [.object] _ rest :=
        (hpassed.after_value hmembers).step fun fuel stack => by rw [skipDue, hkey]
      have hfirst : Moves (k + j + 1 + 1) .first [.object] start rest :=
        hmember.step fun fuel stack => skipDue_first_item fuel hquote (by decide)
      refine ⟨k + j + 1 + 1 + 1, rest, ?_, hrest, hfirst.step hopened⟩
      rw [Tree.tokens, Tree.memberTokens, if_pos rfl]
      simp only [List.length_append, List.length_cons, List.length_nil] at hj ⊢
      omega

theorem passes (t : Tree) : Passes t := by
  induction t using Tree.induction with
  | null => exact passes_scalar trivial
  | bool b => exact passes_scalar trivial
  | number n => exact passes_scalar trivial
  | text us => exact passes_scalar trivial
  | list items ih => exact passes_list ih
  | object members ih => exact passes_object ih

/-- In front of a tree the reader of unknown members comes to stand after the tree. -/
theorem skipValue_of_spaced {t : Tree} {ts : List Bytes} {bytes : Bytes} (hts : Ends ts)
    (h : Spaced (t.tokens ++ ts) bytes) : ∃ rest, skipValue bytes = .ok rest ∧ Spaced ts rest := by
  obtain ⟨k, rest, hk, hrest, hmoves⟩ := passes t ts bytes hts h
  have hlength := h.length_le t.solid_tokens
  refine ⟨rest, ?_, hrest⟩
  obtain ⟨fuel, hfuel⟩ : ∃ fuel, 2 * bytes.length + 2 = fuel + 1 + k :=
    ⟨2 * bytes.length + 1 - k, by omega⟩
  rw [skipValue, hfuel]
  exact hmoves (fuel + 1) []

/-! ## What has been passed over -/

theorem precedes_of_skipKey {bytes rest : Bytes} (h : skipKey bytes = .ok rest) :
    ∃ name, Precedes [Tree.quoted name, [0x3A]] bytes rest := by
  unfold skipKey at h
  split at h
  · cases h
  · rename_i b more hquote
    split at h
    · rename_i hb
      split at h
      · cases h
      · rename_i after htext
        split at h
        · cases h
        · rename_i c tail hcolon
          split at h
          · rename_i hc
            cases h
            obtain ⟨name, hname⟩ := exists_units_of_skipText more .plain (by simp) htext
            have hmore : more = TextUnit.allBytes name ++ 0x22 :: after := hname
            have hquoted : skipSpace bytes = Tree.quoted name ++ after := by
              rw [hquote, hb, hmore]
              simp [Tree.quoted]
            rw [hc] at hcolon
            exact ⟨name, (precedes_token hquoted).append (precedes_octet hcolon)⟩
          · cases h
    · cases h

/-- The tokens of what remains of a list or an object, up to its closing bracket. -/
def Bracket.Remainder (first : Bool) : Bracket → List Bytes → Prop
  | .list, toks => ∃ items, toks = Tree.itemTokens first items
  | .object, toks => ∃ members, toks = Tree.memberTokens first members

theorem Bracket.remainder_close (first : Bool) (bracket : Bracket) :
    bracket.Remainder first [[bracket.close]] := by
  cases bracket with
  | list => exact ⟨[], by rw [Tree.itemTokens]; rfl⟩
  | object => exact ⟨[], by rw [Tree.memberTokens]; rfl⟩

/-- The tokens of an element or a member and of everything after it, up to the closing bracket. -/
def Bracket.Item : Bracket → List Bytes → Prop
  | .list, toks => ∃ t items, toks = Tree.tokens t ++ Tree.itemTokens false items
  | .object, toks => ∃ name t members,
      toks = [Tree.quoted name, [0x3A]] ++ (Tree.tokens t ++ Tree.memberTokens false members)

theorem Bracket.Item.remainder {bracket : Bracket} {toks : List Bytes} (h : bracket.Item toks)
    (first : Bool) : bracket.Remainder first ((if first then [] else [[0x2C]]) ++ toks) := by
  cases bracket with
  | list =>
      obtain ⟨t, items, rfl⟩ := h
      exact ⟨t :: items, by rw [Tree.itemTokens]⟩
  | object =>
      obtain ⟨name, t, members, rfl⟩ := h
      exact ⟨(name, t) :: members, by rw [Tree.memberTokens]; rfl⟩

/-- Where the machine gets to the end, tokens with the property stood in front, and it has fewer
steps left after them. -/
def Resolves (n : Nat) (due : Due) (opened : List Bracket) (P : List Bytes → Prop) : Prop :=
  ∀ stack bytes after, skipDue n due (opened ++ stack) bytes = .ok after →
    ∃ toks m rest, P toks ∧ m < n ∧ Precedes toks bytes rest ∧
      skipDue m .next stack rest = .ok after

/-- The tokens of a tree. -/
def IsTree (toks : List Bytes) : Prop := ∃ t, toks = Tree.tokens t

theorem Bracket.Remainder.isTree {bracket : Bracket} {toks : List Bytes}
    (h : bracket.Remainder true toks) : IsTree ([bracket.opening] :: toks) := by
  cases bracket with
  | list =>
      obtain ⟨items, rfl⟩ := h
      exact ⟨.list items, by rw [Tree.tokens]; rfl⟩
  | object =>
      obtain ⟨members, rfl⟩ := h
      exact ⟨.object members, by rw [Tree.tokens]; rfl⟩

theorem resolves_value {n : Nat}
    (ih : ∀ m < n, ∀ bracket, Resolves m .first [bracket] (bracket.Remainder true)) :
    Resolves n .value [] IsTree := by
  intro stack bytes after h
  cases n with
  | zero => cases h
  | succ n =>
      rw [List.nil_append, skipDue] at h
      split at h
      · cases h
      · rename_i rest hhead
        obtain ⟨t, tok, htok, hbytes⟩ := startsWith_of_skipHead hhead
        exact ⟨[tok], n, rest, ⟨t, htok.symm⟩, n.lt_succ_self, precedes_token hbytes, h⟩
      · rename_i bracket rest hhead
        have hopen := startsWith_of_skipHead hhead
        obtain ⟨toks, m, tail, htoks, hm, hprecedes, htail⟩ :=
          ih n n.lt_succ_self bracket stack rest after h
        exact ⟨_, m, tail, htoks.isTree, by omega, (precedes_octet hopen).append hprecedes, htail⟩

theorem resolves_item {n : Nat} (bracket : Bracket) (hvalue : ∀ m ≤ n, Resolves m .value [] IsTree)
    (ih : ∀ m < n, ∀ bracket, Resolves m .next [bracket] (bracket.Remainder false)) :
    Resolves n bracket.item [bracket] bracket.Item := by
  intro stack bytes after h
  cases bracket with
  | list =>
      obtain ⟨_, m, middle, ⟨t, rfl⟩, hm, ht, hmiddle⟩ := hvalue n (Nat.le_refl n) _ bytes after h
      obtain ⟨_, k, rest, ⟨items, rfl⟩, hk, hitems, hrest⟩ :=
        ih m hm .list stack middle after hmiddle
      exact ⟨_, k, rest, ⟨t, items, rfl⟩, by omega, ht.append hitems, hrest⟩
  | object =>
      cases n with
      | zero => cases h
      | succ n =>
          rw [Bracket.item, skipDue] at h
          split at h
          · cases h
          · rename_i start hkey
            obtain ⟨name, hname⟩ := precedes_of_skipKey hkey
            obtain ⟨_, m, middle, ⟨t, rfl⟩, hm, ht, hmiddle⟩ := hvalue n (by omega) _ start after h
            obtain ⟨_, k, rest, ⟨members, rfl⟩, hk, hmembers, hrest⟩ :=
              ih m (by omega) .object stack middle after hmiddle
            exact ⟨_, k, rest, ⟨name, t, members, rfl⟩, by omega,
              hname.append (ht.append hmembers), hrest⟩

theorem resolves_first {n : Nat} (bracket : Bracket)
    (ih : ∀ m < n, ∀ bracket, Resolves m (Bracket.item bracket) [bracket] bracket.Item) :
    Resolves n .first [bracket] (bracket.Remainder true) := by
  intro stack bytes after h
  cases n with
  | zero => cases h
  | succ n =>
      rw [List.cons_append, skipDue] at h
      split at h
      · cases h
      · rename_i b rest hskip
        split at h
        · rename_i hb
          rw [hb] at hskip
          exact ⟨_, n, rest, bracket.remainder_close true, n.lt_succ_self, precedes_octet hskip, h⟩
        · obtain ⟨toks, m, tail, htoks, hm, hprecedes, htail⟩ :=
            ih n n.lt_succ_self bracket stack _ after h
          exact ⟨toks, m, tail, htoks.remainder true, by omega,
            .of_skipSpace hskip hprecedes, htail⟩

theorem resolves_next {n : Nat} (bracket : Bracket)
    (ih : ∀ m < n, ∀ bracket, Resolves m (Bracket.item bracket) [bracket] bracket.Item) :
    Resolves n .next [bracket] (bracket.Remainder false) := by
  intro stack bytes after h
  cases n with
  | zero => cases h
  | succ n =>
      rw [List.cons_append, skipDue] at h
      split at h
      · cases h
      · rename_i b rest hskip
        split at h
        · rename_i hb
          rw [hb] at hskip
          obtain ⟨toks, m, tail, htoks, hm, hprecedes, htail⟩ :=
            ih n n.lt_succ_self bracket stack _ after h
          exact ⟨_, m, tail, htoks.remainder false, by omega,
            (precedes_octet hskip).append hprecedes, htail⟩
        · split at h
          · rename_i hb
            rw [hb] at hskip
            exact ⟨_, n, rest, bracket.remainder_close false, n.lt_succ_self,
              precedes_octet hskip, h⟩
          · cases h

/-- What the machine gets past, from each place where it can stand.  The steps left bound the text,
and every place but a value inside a list hands over to places with fewer steps left. -/
theorem resolves (n : Nat) :
    Resolves n .value [] IsTree ∧
      ∀ bracket, Resolves n (Bracket.item bracket) [bracket] bracket.Item ∧
        Resolves n .first [bracket] (bracket.Remainder true) ∧
        Resolves n .next [bracket] (bracket.Remainder false) := by
  induction n using Nat.strongRecOn with
  | ind n ih =>
      have hvalue : ∀ m ≤ n, Resolves m .value [] IsTree := fun m hm =>
        resolves_value fun k hk bracket => ((ih k (by omega)).2 bracket).2.1
      refine ⟨hvalue n (Nat.le_refl n), fun bracket => ⟨?_, ?_, ?_⟩⟩
      · exact resolves_item bracket hvalue fun m hm bracket => ((ih m hm).2 bracket).2.2
      · exact resolves_first bracket fun m hm bracket => ((ih m hm).2 bracket).1
      · exact resolves_next bracket fun m hm bracket => ((ih m hm).2 bracket).1

/-- What the reader of unknown members has passed over is a tree. -/
theorem precedes_of_skipValue {bytes rest : Bytes} (h : skipValue bytes = .ok rest) :
    ∃ t, Precedes (Tree.tokens t) bytes rest := by
  obtain ⟨_, m, after, ⟨t, rfl⟩, -, hprecedes, hafter⟩ := (resolves _).1 [] bytes rest h
  refine ⟨t, ?_⟩
  cases m with
  | zero => cases hafter
  | succ m =>
      rw [skipDue] at hafter
      cases hafter
      exact hprecedes

end ApiStubs.Json
