import ApiStubs.Json.Reader
import ApiStubs.Proofs.Json.Tree

/-!
# Numbers in front of octets

A number ends where its digits end, so every statement asks that what follows cannot belong to it.
The reader that wants a 32-bit integer takes a literal exactly when it is plain digits, in range,
and not a zero with a minus sign.
-/

namespace ApiStubs.Json

/-! ## Runs of digits -/

/-- The octets do not start with a digit. -/
def NoDigit (bytes : Bytes) : Prop := ∀ b rest, bytes = b :: rest → isDigit b = false

theorem Separated.noDigit {bytes : Bytes} (h : Separated bytes) : NoDigit bytes :=
  fun b rest hb => (h b rest hb).1

theorem noDigit_cons {b : UInt8} (h : isDigit b = false) (rest : Bytes) : NoDigit (b :: rest) := by
  intro x more hx
  cases hx
  exact h

theorem span_digits {digits rest : Bytes} (hdigits : ∀ d ∈ digits, isDigit d = true)
    (hrest : NoDigit rest) :
    (digits ++ rest).takeWhile isDigit = digits ∧ (digits ++ rest).dropWhile isDigit = rest := by
  induction digits with
  | nil =>
      cases rest with
      | nil => exact ⟨rfl, rfl⟩
      | cons b rest =>
          have hb := hrest b rest rfl
          simp [hb]
  | cons d digits ih =>
      have hd := hdigits d List.mem_cons_self
      have := ih fun x hx => hdigits x (List.mem_cons_of_mem _ hx)
      simp [hd, this.1, this.2]

theorem isDigits_takeWhile {bytes : Bytes} (h : bytes.takeWhile isDigit ≠ []) :
    IsDigits (bytes.takeWhile isDigit) :=
  ⟨h, List.all_eq_true.1 List.all_takeWhile⟩

theorem skipDigits_append {digits rest : Bytes} (h : IsDigits digits) (hrest : NoDigit rest) :
    skipDigits (digits ++ rest) = .ok rest := by
  obtain ⟨htake, hdrop⟩ := span_digits h.2 hrest
  rw [skipDigits, htake, hdrop, if_neg (by simpa using h.1)]

theorem exists_digits_of_skipDigits {bytes rest : Bytes} (h : skipDigits bytes = .ok rest) :
    ∃ digits, IsDigits digits ∧ bytes = digits ++ rest := by
  unfold skipDigits at h
  split at h
  · cases h
  · rename_i hne
    cases h
    exact ⟨_, isDigits_takeWhile (by simpa using hne), List.takeWhile_append_dropWhile.symm⟩

theorem IsDigits.head {digits : Bytes} (h : IsDigits digits) :
    ∃ d rest, digits = d :: rest ∧ isDigit d = true := by
  cases digits with
  | nil => exact absurd rfl h.1
  | cons d rest => exact ⟨d, rest, rfl, h.2 d List.mem_cons_self⟩

theorem toNat_of_digit {d : UInt8} (h : isDigit d = true) : 0x30 ≤ d.toNat ∧ d.toNat ≤ 0x39 := by
  simp only [isDigit, Bool.and_eq_true, decide_eq_true_eq, UInt8.le_iff_toNat_le] at h
  exact h

/-- No digit is a sign, a point or an exponent mark. -/
theorem ne_of_isDigit {d : UInt8} (h : isDigit d = true) :
    d ≠ 0x2B ∧ d ≠ 0x2D ∧ d ≠ 0x2E ∧ isExponentMark d = false := by
  obtain ⟨hlow, hhigh⟩ := toNat_of_digit h
  refine ⟨?_, ?_, ?_, ?_⟩
  · rintro rfl; exact absurd hlow (by decide)
  · rintro rfl; exact absurd hlow (by decide)
  · rintro rfl; exact absurd hlow (by decide)
  · simp only [isExponentMark, Bool.or_eq_false_iff, beq_eq_false_iff_ne]
    constructor <;> (rintro rfl; exact absurd hhigh (by decide))

/-- No exponent mark is a digit, a point or a blank. -/
theorem ne_of_isExponentMark {b : UInt8} (h : isExponentMark b = true) :
    isDigit b = false ∧ b ≠ 0x2E := by
  simp only [isExponentMark, Bool.or_eq_true, beq_iff_eq] at h
  rcases h with rfl | rfl <;> decide

/-! ## Numbers that are passed over -/

theorem skipExponent_append (e : Exponent) {rest : Bytes} (hrest : NoDigit rest) :
    skipExponent (e.sign.toList ++ (e.digits ++ rest)) = .ok rest := by
  obtain ⟨d, more, hd, hdigit⟩ := e.digits_valid.head
  cases hsign : e.sign with
  | none =>
      have hne := ne_of_isDigit hdigit
      have hskip := skipDigits_append e.digits_valid hrest
      simp only [Option.toList_none, List.nil_append]
      rw [hd, List.cons_append] at hskip ⊢
      rw [skipExponent, if_neg (by simp [hne.1, hne.2.1]), hskip]
  | some sign =>
      have hsigned := e.sign_valid sign (by simp [hsign])
      simp only [Option.toList_some, List.cons_append, List.nil_append]
      rw [skipExponent, if_pos hsigned]
      exact skipDigits_append e.digits_valid hrest

theorem exists_exponent_of_skipExponent {mark : UInt8} (hmark : isExponentMark mark = true)
    {bytes rest : Bytes} (h : skipExponent bytes = .ok rest) :
    ∃ e : Exponent, mark :: bytes = e.bytes ++ rest := by
  cases bytes with
  | nil => simp [skipExponent] at h
  | cons b bytes =>
      rw [skipExponent] at h
      split at h
      · rename_i hsign
        obtain ⟨digits, hdigits, rfl⟩ := exists_digits_of_skipDigits h
        exact ⟨⟨mark, some b, digits, hmark, by simpa using hsign,
          hdigits⟩, by simp [Exponent.bytes]⟩
      · obtain ⟨digits, hdigits, hbytes⟩ := exists_digits_of_skipDigits h
        exact ⟨⟨mark, none, digits, hmark, by simp, hdigits⟩, by simp [Exponent.bytes, hbytes]⟩

/-- An exponent or its absence, in front of what cannot belong to a number. -/
theorem noDigit_exponent (e : Option Exponent) {rest : Bytes} (hrest : Separated rest) :
    NoDigit (e.elim [] Exponent.bytes ++ rest) := by
  cases e with
  | none => exact hrest.noDigit
  | some e => exact noDigit_cons (ne_of_isExponentMark e.mark_valid).1 _

theorem skipNumberTail_append (n : NumberLiteral) {rest : Bytes} (hrest : Separated rest) :
    skipNumberTail (n.tail ++ rest) = .ok rest := by
  have hexponent : ∀ e : Exponent,
      skipExponent (e.sign.toList ++ (e.digits ++ rest)) = .ok rest :=
    fun e => skipExponent_append e hrest.noDigit
  cases hfraction : n.fraction with
  | none =>
      cases he : n.exponent with
      | none =>
          simp only [NumberLiteral.tail, hfraction, he, Option.elim_none, List.nil_append]
          cases rest with
          | nil => rfl
          | cons b rest =>
              have hb := hrest b rest rfl
              rw [skipNumberTail, if_neg hb.2.1, if_neg (by simp [hb.2.2])]
      | some e =>
          have hmark := ne_of_isExponentMark e.mark_valid
          simp only [NumberLiteral.tail, hfraction, he, Option.elim_none, Option.elim_some,
            List.nil_append, Exponent.bytes, List.cons_append, List.append_assoc]
          rw [skipNumberTail, if_neg hmark.2, if_pos e.mark_valid, hexponent]
  | some digits =>
      have hdigits := n.fraction_valid digits (by simp [hfraction])
      have hskip := skipDigits_append hdigits (noDigit_exponent n.exponent hrest)
      simp only [NumberLiteral.tail, hfraction, Option.elim_some, List.cons_append,
        List.append_assoc]
      rw [skipNumberTail, if_pos rfl, hskip]
      cases he : n.exponent with
      | none =>
          simp only [Option.elim_none, List.nil_append]
          cases rest with
          | nil => rfl
          | cons b rest =>
              have hb := hrest b rest rfl
              simp only [hb.2.2, Bool.false_eq_true, if_false]
      | some e =>
          simp only [Option.elim_some, Exponent.bytes, List.cons_append, List.append_assoc,
            e.mark_valid, if_true]
          exact hexponent e

theorem exists_tail_of_skipNumberTail {bytes rest : Bytes} (h : skipNumberTail bytes = .ok rest) :
    ∃ (fraction : Option Bytes) (exponent : Option Exponent), (∀ f ∈ fraction, IsDigits f) ∧
      bytes = (fraction.elim [] fun f => 0x2E :: f) ++ exponent.elim [] Exponent.bytes ++ rest := by
  cases bytes with
  | nil =>
      cases h
      exact ⟨none, none, by simp, rfl⟩
  | cons b bytes =>
      rw [skipNumberTail] at h
      split at h
      · rename_i hpoint
        split at h
        · cases h
        · rename_i hskip
          cases h
          obtain ⟨digits, hdigits, rfl⟩ := exists_digits_of_skipDigits hskip
          exact ⟨some digits, none, by simpa using hdigits, by simp [hpoint]⟩
        · rename_i c more hskip
          obtain ⟨digits, hdigits, rfl⟩ := exists_digits_of_skipDigits hskip
          split at h
          · rename_i hmark
            obtain ⟨e, he⟩ := exists_exponent_of_skipExponent hmark h
            exact ⟨some digits, some e, by simpa using hdigits, by simp [hpoint, he]⟩
          · cases h
            exact ⟨some digits, none, by simpa using hdigits, by simp [hpoint]⟩
      · split at h
        · rename_i hmark
          obtain ⟨e, he⟩ := exists_exponent_of_skipExponent hmark h
          exact ⟨none, some e, by simp, by simp [he]⟩
        · cases h
          exact ⟨none, none, by simp, rfl⟩

theorem noDigit_tail (n : NumberLiteral) {rest : Bytes} (hrest : Separated rest) :
    NoDigit (n.tail ++ rest) := by
  cases hfraction : n.fraction with
  | none =>
      simpa [NumberLiteral.tail, hfraction] using noDigit_exponent n.exponent hrest
  | some digits =>
      simp only [NumberLiteral.tail, hfraction, Option.elim_some, List.cons_append]
      exact noDigit_cons (by decide) _

theorem skipNumber_zero {after : Bytes} (h : NoDigit after) :
    skipNumber (0x30 :: after) = skipNumberTail after := by
  cases after with
  | nil => rfl
  | cons c more => simp [skipNumber, h c more rfl]

theorem skipNumber_nonzero {b : UInt8} (h : b ≠ 0x30) (rest : Bytes) :
    skipNumber (b :: rest) =
      match skipDigits (b :: rest) with
      | .error e => .error e
      | .ok after => skipNumberTail after := by
  cases hdigits : skipDigits (b :: rest) <;> simp [skipNumber, h, hdigits]

theorem skipNumberTail_of_skipNumber_zero {bytes rest : Bytes}
    (h : skipNumber (0x30 :: bytes) = .ok rest) : skipNumberTail bytes = .ok rest := by
  rw [skipNumber.eq_def] at h
  simp only [if_true] at h
  cases bytes with
  | nil => exact h
  | cons c more =>
      simp only at h
      split at h
      · cases h
      · exact h

theorem skipNumber_append (n : NumberLiteral) {rest : Bytes} (hrest : Separated rest) :
    skipNumber (n.unsigned ++ rest) = .ok rest := by
  have htail := skipNumberTail_append n hrest
  have hnodigit := noDigit_tail n hrest
  rw [NumberLiteral.unsigned, List.append_assoc]
  generalize n.tail ++ rest = after at htail hnodigit
  by_cases hzero : n.whole.head? = some 0x30
  · rw [n.zero_valid hzero, List.cons_append, List.nil_append, skipNumber_zero hnodigit]
    exact htail
  · obtain ⟨d, more, hwhole, hd⟩ := n.whole_valid.head
    have hne : d ≠ 0x30 := by
      rintro rfl
      exact hzero (by rw [hwhole]; rfl)
    have hskip := skipDigits_append n.whole_valid hnodigit
    rw [hwhole, List.cons_append] at hskip ⊢
    rw [skipNumber_nonzero hne, hskip]
    exact htail

/-- What is passed over as a number is a number. -/
theorem exists_literal_of_skipNumber (negative : Bool) {bytes rest : Bytes}
    (h : skipNumber bytes = .ok rest) :
    ∃ n : NumberLiteral, n.negative = negative ∧ bytes = n.unsigned ++ rest := by
  cases bytes with
  | nil => simp [skipNumber] at h
  | cons b bytes =>
      by_cases hzero : b = 0x30
      · subst hzero
        have htail := skipNumberTail_of_skipNumber_zero h
        obtain ⟨fraction, exponent, hfraction, hbytes⟩ := exists_tail_of_skipNumberTail htail
        refine ⟨⟨negative, [0x30], fraction, exponent, ⟨by simp, ?_⟩, fun _ => rfl, hfraction⟩, rfl,
          ?_⟩
        · intro d hd
          rw [List.mem_singleton.1 hd]
          decide
        · simp [NumberLiteral.unsigned, NumberLiteral.tail, hbytes]
      · rw [skipNumber_nonzero hzero] at h
        split at h
        · cases h
        · rename_i after hskip
          obtain ⟨digits, hdigits, hsplit⟩ := exists_digits_of_skipDigits hskip
          obtain ⟨fraction, exponent, hfraction, hafter⟩ := exists_tail_of_skipNumberTail h
          have hhead : digits.head? = some 0x30 → digits = [0x30] := by
            intro hhead
            obtain ⟨d, more, hd, -⟩ := hdigits.head
            rw [hd] at hhead hsplit
            have hb : b = d := (List.cons.inj hsplit).1
            exact absurd (hb.trans (Option.some.inj hhead)) hzero
          refine ⟨⟨negative, digits, fraction, exponent, hdigits, hhead, hfraction⟩, rfl, ?_⟩
          rw [hsplit, hafter]
          simp [NumberLiteral.unsigned, NumberLiteral.tail]

/-! ## Numbers that are read -/

theorem float_of_floatOfParts {negative : Bool} {significand : Nat} {exponent : Int} {n : Number}
    (h : floatOfParts negative significand exponent = .ok n) : ∃ x, n = .float x := by
  unfold floatOfParts at h
  split at h
  · cases h
  · split at h
    · cases h; exact ⟨_, rfl⟩
    · split at h
      · cases h; exact ⟨_, rfl⟩
      · split at h
        · cases h
        · split at h
          · cases h
          · split at h
            · cases h
            · cases h; exact ⟨_, rfl⟩

theorem of_withRest {α : Type} {result : Except Fault α} {after rest : Bytes} {a : α}
    (h : withRest result after = .ok (a, rest)) : result = .ok a ∧ after = rest := by
  unfold withRest at h
  split at h
  · cases h
  · cases h; exact ⟨rfl, rfl⟩

theorem skipDigits_of_scanExponentDigits {negative down : Bool} {significand : Nat} {exponent : Int}
    {bytes rest : Bytes} {n : Number}
    (h : scanExponentDigits negative significand exponent down bytes = .ok (n, rest)) :
    skipDigits bytes = .ok rest ∧ ∃ x, n = .float x := by
  cases bytes with
  | nil => cases h
  | cons d more =>
      rw [scanExponentDigits] at h
      split at h
      · rename_i hd
        rw [skipDigits, if_neg (by simp [hd])]
        dsimp only at h
        by_cases hlarge : exponentMax < naturalOf ((d :: more).takeWhile isDigit)
        · rw [if_pos hlarge] at h
          split at h
          · cases h
          · cases h; exact ⟨rfl, _, rfl⟩
        · rw [if_neg hlarge] at h
          obtain ⟨hn, rfl⟩ := of_withRest h
          exact ⟨rfl, float_of_floatOfParts hn⟩
      · cases h

/-- An exponent that can be read can be passed over, and makes the number a float. -/
theorem skipExponent_of_scanExponent {negative : Bool} {significand : Nat} {exponent : Int}
    {bytes rest : Bytes} {n : Number}
    (h : scanExponent negative significand exponent bytes = .ok (n, rest)) :
    skipExponent bytes = .ok rest ∧ ∃ x, n = .float x := by
  cases bytes with
  | nil => cases h
  | cons b more =>
      rw [scanExponent] at h
      rw [skipExponent]
      split at h
      · rename_i hplus
        rw [if_pos (.inl hplus)]
        exact skipDigits_of_scanExponentDigits h
      · rename_i hplus
        split at h
        · rename_i hminus
          rw [if_pos (.inr hminus)]
          exact skipDigits_of_scanExponentDigits h
        · rename_i hminus
          rw [if_neg (by simp [hplus, hminus])]
          exact skipDigits_of_scanExponentDigits h

/-- A fraction that can be read can be passed over, and makes the number a float. -/
theorem skipNumberTail_of_scanFraction {negative : Bool} {significand : Nat} {exponent : Int}
    {bytes rest : Bytes} {n : Number}
    (h : scanFraction negative significand exponent bytes = .ok (n, rest)) :
    skipNumberTail (0x2E :: bytes) = .ok rest ∧ ∃ x, n = .float x := by
  unfold scanFraction at h
  dsimp only at h
  split at h
  · cases h
  · cases h
  · rename_i d digits after hdigits
    have hskip : skipDigits bytes = .ok (bytes.dropWhile isDigit) := by
      rw [skipDigits, if_neg (by simp [hdigits])]
    rw [skipNumberTail, if_pos rfl, hskip]
    split at h
    · rename_i b more hafter
      split at h
      · rename_i hmark
        simp only [hafter, hmark, if_true]
        exact skipExponent_of_scanExponent h
      · rename_i hmark
        obtain ⟨hn, rfl⟩ := of_withRest h
        simp only [hafter, hmark, Bool.false_eq_true, if_false]
        exact ⟨trivial, float_of_floatOfParts hn⟩
    · rename_i hafter
      obtain ⟨hn, rfl⟩ := of_withRest h
      simp only [hafter]
      exact ⟨trivial, float_of_floatOfParts hn⟩

theorem skipNumberTail_of_scanNumberTail {negative : Bool} {significand : Nat}
    {left bytes rest : Bytes} {n : Number}
    (h : scanNumberTail negative significand left bytes = .ok (n, rest)) :
    skipNumberTail bytes = .ok rest := by
  cases bytes with
  | nil =>
      obtain ⟨-, rfl⟩ := of_withRest h
      rfl
  | cons c more =>
      rw [scanNumberTail] at h
      split at h
      · rename_i hpoint
        rw [hpoint]
        exact (skipNumberTail_of_scanFraction h).1
      · rename_i hpoint
        rw [skipNumberTail, if_neg hpoint]
        split at h
        · rename_i hmark
          rw [if_pos hmark]
          exact (skipExponent_of_scanExponent h).1
        · rename_i hmark
          obtain ⟨-, rfl⟩ := of_withRest h
          rw [if_neg hmark]

theorem noDigit_of_takeWhile_isEmpty {bytes : Bytes} (h : (bytes.takeWhile isDigit).isEmpty) :
    NoDigit bytes := by
  intro b rest hb
  rw [hb, List.takeWhile_cons] at h
  split at h
  · cases h
  · rename_i hdigit
    exact Bool.eq_false_iff.2 hdigit

/-- A number that can be read can be passed over. -/
theorem skipNumber_of_scanNumber {negative : Bool} {bytes rest : Bytes} {n : Number}
    (h : scanNumber negative bytes = .ok (n, rest)) : skipNumber bytes = .ok rest := by
  cases bytes with
  | nil => cases h
  | cons b more =>
      rw [scanNumber] at h
      split at h
      · rename_i hzero
        split at h
        · rename_i hempty
          rw [hzero, skipNumber_zero (noDigit_of_takeWhile_isEmpty hempty)]
          exact skipNumberTail_of_scanNumberTail h
        · cases h
      · rename_i hzero
        split at h
        · rename_i hdigit
          have hskip : skipDigits (b :: more) = .ok ((b :: more).dropWhile isDigit) := by
            rw [skipDigits, if_neg (by simp [hdigit])]
          rw [skipNumber_nonzero hzero, hskip]
          exact skipNumberTail_of_scanNumberTail h
        · cases h

/-! ## Integers of 32 bits -/

/-- A number that is read is no integer. -/
def NotInteger (result : Except Fault (Number × Bytes)) : Prop :=
  ∀ n rest, result = .ok (n, rest) → ∃ x, n = .float x

theorem NotInteger.finish {result : Except Fault (Number × Bytes)} (h : NotInteger result) :
    (readInt32.finish result).toOption = none := by
  cases result with
  | error e => rfl
  | ok r =>
      obtain ⟨n, rest⟩ := r
      obtain ⟨x, rfl⟩ := h n rest rfl
      rfl

/-- The number that digits write after a number already read. -/
def naturalFrom (start : Nat) (digits : Bytes) : Nat :=
  digits.foldl (fun n d => n * 10 + digitValue d) start

theorem le_naturalFrom (start : Nat) (digits : Bytes) : start ≤ naturalFrom start digits := by
  induction digits generalizing start with
  | nil => exact Nat.le_refl _
  | cons d digits ih =>
      have := ih (start * 10 + digitValue d)
      show start ≤ naturalFrom (start * 10 + digitValue d) digits
      omega

/-- Digits that make up a number of 64 bits all fit into the significand. -/
theorem gather_of_le {start : Nat} {digits : Bytes}
    (h : naturalFrom start digits ≤ significandMax) :
    gather start digits = (naturalFrom start digits, []) := by
  induction digits generalizing start with
  | nil => rfl
  | cons d digits ih =>
      have hnext : start * 10 + digitValue d ≤ significandMax :=
        Nat.le_trans (le_naturalFrom _ digits) h
      rw [gather, if_neg (by omega)]
      exact ih h

/-- Of digits that make up more than 64 bits some are left over. -/
theorem gather_of_lt {start : Nat} {digits : Bytes} (hstart : start ≤ significandMax)
    (h : significandMax < naturalFrom start digits) : (gather start digits).2 ≠ [] := by
  induction digits generalizing start with
  | nil => exact absurd h (by simp [naturalFrom]; omega)
  | cons d digits ih =>
      rw [gather]
      split
      · simp
      · exact ih (by omega) h

namespace NumberLiteral

/-- The integer that the digits before the point write. -/
def integer (n : NumberLiteral) : Int :=
  if n.negative then -(naturalOf n.whole : Int) else naturalOf n.whole

/-- The 32-bit integer that a literal stands for: plain digits, in range, no zero with a minus
sign. -/
def int32? (n : NumberLiteral) : Option Int32 :=
  if n.fraction.isNone ∧ n.exponent.isNone ∧ ¬ (n.negative ∧ n.integer = 0) ∧
      -2147483648 ≤ n.integer ∧ n.integer ≤ 2147483647 then
    some (Int32.ofInt n.integer)
  else none

theorem int32?_eq_none_of_tail {n : NumberLiteral} (h : ¬ (n.fraction = none ∧ n.exponent = none)) :
    n.int32? = none := by
  rw [int32?, if_neg]
  rintro ⟨hfraction, hexponent, -⟩
  exact h ⟨Option.isNone_iff_eq_none.1 hfraction, Option.isNone_iff_eq_none.1 hexponent⟩

end NumberLiteral

theorem scanNumber_unsigned (n : NumberLiteral) (negative : Bool) {rest : Bytes}
    (hrest : Separated rest) :
    scanNumber negative (n.unsigned ++ rest) =
      scanNumberTail negative (gather 0 n.whole).1 (gather 0 n.whole).2 (n.tail ++ rest) := by
  have hnodigit := noDigit_tail n hrest
  rw [NumberLiteral.unsigned, List.append_assoc]
  generalize n.tail ++ rest = after at hnodigit ⊢
  by_cases hzero : n.whole.head? = some 0x30
  · have hempty : (after.takeWhile isDigit).isEmpty = true := by
      cases after with
      | nil => rfl
      | cons c more => simp [hnodigit c more rfl]
    rw [n.zero_valid hzero, List.cons_append, List.nil_append, scanNumber, if_pos rfl,
      if_pos hempty]
    rfl
  · obtain ⟨d, more, hwhole, hd⟩ := n.whole_valid.head
    have hne : d ≠ 0x30 := by
      rintro rfl
      exact hzero (by rw [hwhole]; rfl)
    obtain ⟨htake, hdrop⟩ := span_digits n.whole_valid.2 hnodigit
    rw [hwhole, List.cons_append] at htake hdrop ⊢
    rw [scanNumber, if_neg hne, if_pos hd, htake, hdrop]

theorem notInteger_scanNumberTail (n : NumberLiteral)
    (h : ¬ (n.fraction = none ∧ n.exponent = none)) (negative : Bool) (significand : Nat)
    (left rest : Bytes) :
    NotInteger (scanNumberTail negative significand left (n.tail ++ rest)) := by
  intro number after hscan
  cases hfraction : n.fraction with
  | some digits =>
      simp only [NumberLiteral.tail, hfraction, Option.elim_some, List.cons_append] at hscan
      rw [scanNumberTail, if_pos rfl] at hscan
      exact (skipNumberTail_of_scanFraction hscan).2
  | none =>
      cases hexponent : n.exponent with
      | none => exact absurd ⟨hfraction, hexponent⟩ h
      | some e =>
          simp only [NumberLiteral.tail, hfraction, hexponent, Option.elim_none, Option.elim_some,
            List.nil_append, Exponent.bytes, List.cons_append] at hscan
          rw [scanNumberTail, if_neg (ne_of_isExponentMark e.mark_valid).2, if_pos e.mark_valid]
            at hscan
          exact (skipExponent_of_scanExponent hscan).2

theorem scanNumberTail_separated {negative : Bool} {significand : Nat} {left rest : Bytes}
    (hrest : Separated rest) :
    scanNumberTail negative significand left rest =
      withRest (plainNumber negative significand left) rest := by
  cases rest with
  | nil => rfl
  | cons b rest =>
      have hb := hrest b rest rfl
      rw [scanNumberTail, if_neg hb.2.1, if_neg (by simp [hb.2.2])]

theorem notInteger_withRest {negative : Bool} {significand : Nat} {exponent : Int} {rest : Bytes} :
    NotInteger (withRest (floatOfParts negative significand exponent) rest) := by
  intro number after h
  exact float_of_floatOfParts (of_withRest h).1

theorem finish_integer (i : Int) (rest : Bytes) :
    (readInt32.finish (.ok (.integer i, rest))).toOption =
      if -2147483648 ≤ i ∧ i ≤ 2147483647 then some (Int32.ofInt i, rest) else none := by
  show (withRest (Json.int32? (.integer i)) rest).toOption = _
  rw [Json.int32?]
  split <;> rfl

/-- Plain digits are read as their integer when it is in range. -/
theorem finish_plainNumber (n : NumberLiteral) (hplain : n.fraction = none ∧ n.exponent = none)
    (rest : Bytes) :
    (readInt32.finish (withRest
      (plainNumber n.negative (gather 0 n.whole).1 (gather 0 n.whole).2) rest)).toOption =
      n.int32?.map (·, rest) := by
  have hint32 : n.int32? =
      if ¬ (n.negative ∧ n.integer = 0) ∧ -2147483648 ≤ n.integer ∧ n.integer ≤ 2147483647 then
        some (Int32.ofInt n.integer)
      else none := by
    simp [NumberLiteral.int32?, hplain.1, hplain.2]
  have hmax : significandMax = 18446744073709551615 := rfl
  by_cases hfits : naturalOf n.whole ≤ significandMax
  · rw [gather_of_le hfits]
    show (readInt32.finish (withRest (integerOfParts n.negative (naturalOf n.whole))
      rest)).toOption = _
    rw [hint32, NumberLiteral.integer, integerOfParts]
    cases hnegative : n.negative with
    | false =>
        simp only [Bool.false_eq_true, if_false, false_and, not_false_eq_true, true_and]
        rw [show withRest (Except.ok (Number.integer (naturalOf n.whole))) rest =
          .ok (.integer (naturalOf n.whole), rest) from rfl, finish_integer]
        split <;> rfl
    | true =>
        simp only [if_true, true_and]
        split
        · rename_i hfloat
          have hlimit : Nat.pow 2 63 = 9223372036854775808 := rfl
          rw [notInteger_withRest.finish, if_neg (by omega)]
          rfl
        · rename_i hinteger
          rw [show withRest (Except.ok (Number.integer (-(naturalOf n.whole : Int)))) rest =
            .ok (.integer (-(naturalOf n.whole : Int)), rest) from rfl, finish_integer]
          by_cases hrange : -2147483648 ≤ -(naturalOf n.whole : Int) ∧
              -(naturalOf n.whole : Int) ≤ 2147483647
          · rw [if_pos hrange, if_pos ⟨by omega, hrange⟩]
            rfl
          · rw [if_neg hrange, if_neg fun h => hrange h.2]
            rfl
  · have hleft := gather_of_lt (Nat.zero_le _) (show significandMax < naturalFrom 0 n.whole by
      exact Nat.lt_of_not_le hfits)
    rw [plainNumber, if_neg (by simpa using hleft), notInteger_withRest.finish, hint32, if_neg]
    · rfl
    · rw [NumberLiteral.integer]
      split <;> omega

/-- A number in front is read as the 32-bit integer it stands for. -/
theorem finish_scanNumber (n : NumberLiteral) {rest : Bytes} (hrest : Separated rest) :
    (readInt32.finish (scanNumber n.negative (n.unsigned ++ rest))).toOption =
      n.int32?.map (·, rest) := by
  rw [scanNumber_unsigned n n.negative hrest]
  by_cases hplain : n.fraction = none ∧ n.exponent = none
  · have htail : n.tail = [] := by simp [NumberLiteral.tail, hplain.1, hplain.2]
    rw [htail, List.nil_append, scanNumberTail_separated hrest]
    exact finish_plainNumber n hplain rest
  · have hfloat := notInteger_scanNumberTail n hplain n.negative (gather 0 n.whole).1
      (gather 0 n.whole).2 rest
    rw [hfloat.finish, NumberLiteral.int32?_eq_none_of_tail hplain]
    rfl

end ApiStubs.Json
