import ApiStubs.Json.Writer
import ApiStubs.Proofs.Json.Rephrasing
import ApiStubs.Proofs.Text.Utf8

/-!
# Written texts as trees

What the writers write is the text of a tree without blanks, and the readers take from that tree
what was written.
-/

namespace ApiStubs.Json

/-! ## Strings -/

/-- An octet that stands for itself in a string. -/
def IsPlain (octet : UInt8) : Prop := octet ≠ 0x22 ∧ octet ≠ 0x5C ∧ ¬ octet < 0x20

theorem isPlain_of_le {n : Nat} (h : 0x80 ≤ n) (hn : n < 256) : IsPlain (UInt8.ofNat n) := by
  have htoNat := Utf8.toNat_ofNat_of_lt hn
  refine ⟨fun heq => ?_, fun heq => ?_, fun hlt => ?_⟩
  · have : n = 0x22 := htoNat.symm.trans (congrArg UInt8.toNat heq)
    omega
  · have : n = 0x5C := htoNat.symm.trans (congrArg UInt8.toNat heq)
    omega
  · rw [UInt8.lt_iff_toNat_lt, htoNat] at hlt
    exact absurd (show n < 32 from hlt) (by omega)

/-- The octets of a character that is written as it is. -/
theorem isPlain_utf8EncodeChar {c : Char} (hquote : c ≠ '"') (hslash : c ≠ '\\')
    (hcontrol : ¬ c.toNat < 0x20) : ∀ b ∈ String.utf8EncodeChar c, IsPlain b := by
  have hval : c.val.toNat = c.toNat := rfl
  have hne : c.toNat ≠ 0x22 ∧ c.toNat ≠ 0x5C := by
    refine ⟨fun h => hquote ?_, fun h => hslash ?_⟩
    · exact Char.toNat_inj.1 h
    · exact Char.toNat_inj.1 h
  unfold String.utf8EncodeChar
  simp only [hval]
  split
  · rename_i h
    intro b hb
    rw [List.mem_singleton] at hb
    have htoNat := Utf8.toNat_ofNat_of_lt (n := c.toNat) (by omega)
    rw [hb]
    refine ⟨fun heq => hne.1 ?_, fun heq => hne.2 ?_, fun hlt => hcontrol ?_⟩
    · exact htoNat.symm.trans (congrArg UInt8.toNat heq)
    · exact htoNat.symm.trans (congrArg UInt8.toNat heq)
    · rw [UInt8.lt_iff_toNat_lt, htoNat] at hlt
      exact hlt
  · split
    · simp only [List.forall_mem_cons]
      exact ⟨isPlain_of_le (by omega) (by omega), isPlain_of_le (by omega) (by omega),
        fun _ h => nomatch h⟩
    · split
      · simp only [List.forall_mem_cons]
        exact ⟨isPlain_of_le (by omega) (by omega), isPlain_of_le (by omega) (by omega),
          isPlain_of_le (by omega) (by omega), fun _ h => nomatch h⟩
      · simp only [List.forall_mem_cons]
        exact ⟨isPlain_of_le (by omega) (by omega), isPlain_of_le (by omega) (by omega),
          isPlain_of_le (by omega) (by omega), isPlain_of_le (by omega) (by omega),
          fun _ h => nomatch h⟩

/-- Units that are written as the octets and stand for the content. -/
def Stands (octets content : Bytes) (us : List TextUnit) : Prop :=
  TextUnit.allBytes us = octets ∧
    ∀ more, TextUnit.content? (us ++ more) = (TextUnit.content? more).map (content ++ ·)

theorem stands_plain {octets : Bytes} (h : ∀ b ∈ octets, IsPlain b) :
    ∃ us, Stands octets octets us := by
  induction octets with
  | nil => exact ⟨[], rfl, fun more => by simp⟩
  | cons b octets ih =>
      obtain ⟨us, hbytes, hcontent⟩ := ih fun x hx => h x (List.mem_cons_of_mem _ hx)
      refine ⟨.plain b (h b List.mem_cons_self) :: us, ?_, fun more => ?_⟩
      · rw [TextUnit.allBytes_cons, hbytes]
        rfl
      · rw [List.cons_append, TextUnit.content?.eq_def]
        simp only [hcontent]
        cases TextUnit.content? more <;> rfl

theorem stands_escape (letter : UInt8) {octet : UInt8} (h : simpleEscape? letter = some octet) :
    ∃ us, Stands [0x5C, letter] [octet] us := by
  refine ⟨[.escape letter (by rw [h]; rfl)], rfl, fun more => ?_⟩
  rw [List.singleton_append, TextUnit.content?]
  simp only [h, Option.get_some]
  rfl

theorem stands_code {a b c d : UInt8} {n : Nat} (h : hexNumber? 0 [a, b, c, d] = some n)
    (hn : n < 0xD800) : ∃ us, Stands [0x5C, 0x75, a, b, c, d] (codeBytes n) us := by
  refine ⟨[.code a b c d (by rw [h]; rfl)], rfl, fun more => ?_⟩
  have hlow : ¬ TextUnit.IsLow n := fun hlow => by
    have := hlow.1
    omega
  have hhigh : ¬ TextUnit.IsHigh n := fun hhigh => by
    have := hhigh.1
    omega
  rw [List.singleton_append, TextUnit.content?.eq_def]
  simp only [h, Option.get_some, if_neg hlow, if_neg hhigh]

/-- The octet of a hexadecimal digit. -/
def hexOctet (n : Nat) : UInt8 := UInt8.ofNat (if n < 10 then n + 0x30 else n + 0x57)

theorem utf8EncodeChar_hexDigit : ∀ n < 16, String.utf8EncodeChar (hexDigit n) = [hexOctet n] := by
  decide

theorem hexNumber?_hexOctet :
    ∀ n < 0x20, hexNumber? 0 [0x30, 0x30, hexOctet (n / 16), hexOctet (n % 16)] = some n := by
  decide

/-- A character as it is written in a string stands for itself. -/
theorem stands_writtenChar (c : Char) :
    ∃ us, Stands ((writtenChar c).flatMap String.utf8EncodeChar) (String.utf8EncodeChar c) us := by
  unfold writtenChar
  split
  · rename_i h
    rw [h]
    exact stands_escape 0x22 rfl
  split
  · rename_i h
    rw [h]
    exact stands_escape 0x5C rfl
  split
  · rename_i h
    rw [h]
    exact stands_escape 0x6E rfl
  split
  · rename_i h
    rw [h]
    exact stands_escape 0x72 rfl
  split
  · rename_i h
    rw [h]
    exact stands_escape 0x74 rfl
  split
  · rename_i h
    rw [Char.toNat_inj.1 (show c.toNat = (Char.ofNat 0x08).toNat from h)]
    exact stands_escape 0x62 rfl
  split
  · rename_i h
    rw [Char.toNat_inj.1 (show c.toNat = (Char.ofNat 0x0C).toNat from h)]
    exact stands_escape 0x66 rfl
  split
  · rename_i h
    have hcode := stands_code (hexNumber?_hexOctet c.toNat h) (by omega)
    rw [codeBytes, Char.ofNat_toNat] at hcode
    simp only [List.flatMap_cons, List.flatMap_nil,
      utf8EncodeChar_hexDigit _ (by omega : c.toNat / 16 < 16),
      utf8EncodeChar_hexDigit _ (by omega : c.toNat % 16 < 16)]
    exact hcode
  · rename_i hquote hslash _ _ _ _ _ hcontrol
    rw [List.flatMap_singleton]
    exact stands_plain (isPlain_utf8EncodeChar hquote hslash hcontrol)

theorem stands_written (cs : List Char) :
    ∃ us, Stands ((cs.flatMap writtenChar).flatMap String.utf8EncodeChar)
      (cs.flatMap String.utf8EncodeChar) us := by
  induction cs with
  | nil => exact ⟨[], rfl, fun more => by simp⟩
  | cons c cs ih =>
      obtain ⟨us, hbytes, hcontent⟩ := stands_writtenChar c
      obtain ⟨vs, hbytes', hcontent'⟩ := ih
      refine ⟨us ++ vs, ?_, fun more => ?_⟩
      · rw [List.flatMap_cons, List.flatMap_append, ← hbytes, ← hbytes']
        exact List.flatMap_append
      · rw [List.append_assoc, hcontent, hcontent', List.flatMap_cons]
        cases TextUnit.content? more <;> simp

/-- What is written for a text is a string that stands for the text. -/
theorem exists_units_of_writeText (s : String) :
    ∃ us, Utf8.encode (writeText s) = Tree.quoted us ∧ TextUnit.value? us = some s := by
  obtain ⟨us, hbytes, hcontent⟩ := stands_written s.toList
  refine ⟨us, ?_, ?_⟩
  · have hquote : String.utf8EncodeChar '"' = [0x22] := by decide
    rw [writeText, Utf8.encode_ofList]
    simp only [List.cons_append, List.flatMap_cons, List.flatMap_append, List.flatMap_nil, hquote,
      ← hbytes]
    rfl
  · have hall := hcontent []
    rw [List.append_nil] at hall
    rw [TextUnit.value?, hall]
    simp only [TextUnit.content?, Option.map_some, List.append_nil, Option.bind_some]
    exact Utf8.decode?_encode s

/-! ## Values -/

/-- The text is that of a tree, without blanks, from which `view` takes the value. -/
def Written {α : Type} (text : String) (view : Tree → Option α) (a : α) : Prop :=
  ∃ t : Tree, Utf8.encode text = t.tokens.flatten ∧ view t = some a

theorem written_text (s : String) : Written (writeText s) Tree.text? s := by
  obtain ⟨us, hbytes, hvalue⟩ := exists_units_of_writeText s
  exact ⟨.text us, by rw [Tree.tokens, hbytes]; simp, hvalue⟩

theorem written_optional (o : Option String) :
    Written (writeOptional writeText o) (Tree.optional? Tree.text?) o := by
  cases o with
  | none => exact ⟨.null, by rw [Tree.tokens]; decide, rfl⟩
  | some s =>
      obtain ⟨us, hbytes, hvalue⟩ := exists_units_of_writeText s
      refine ⟨.text us, ?_, ?_⟩
      · rw [Tree.tokens, writeOptional, hbytes]
        simp
      · show (TextUnit.value? us).map some = _
        rw [hvalue]
        rfl

theorem written_variant {α : Type} {known : List (String × α)} {name : String} {a : α}
    (h : pick known name = .ok a) : Written (writeText name) (Tree.variant? known) a := by
  obtain ⟨us, hbytes, hvalue⟩ := exists_units_of_writeText name
  refine ⟨.text us, by rw [Tree.tokens, hbytes]; simp, ?_⟩
  rw [Tree.variant?, picked, hvalue, Option.bind_some, h]
  rfl

/-! ## Integers -/

/-- The octet of a decimal digit. -/
def digitOctet (c : Char) : UInt8 := UInt8.ofNat c.toNat

theorem toNat_of_isDigit {c : Char} (h : c.isDigit = true) : 0x30 ≤ c.toNat ∧ c.toNat ≤ 0x39 := by
  simp only [Char.isDigit, Bool.and_eq_true, decide_eq_true_eq, UInt32.le_iff_toNat_le] at h
  exact h

theorem toNat_digitOctet {c : Char} (h : c.isDigit = true) : (digitOctet c).toNat = c.toNat := by
  have := toNat_of_isDigit h
  exact Utf8.toNat_ofNat_of_lt (by omega)

theorem utf8EncodeChar_of_isDigit {c : Char} (h : c.isDigit = true) :
    String.utf8EncodeChar c = [digitOctet c] := by
  have := toNat_of_isDigit h
  unfold String.utf8EncodeChar
  exact if_pos (show c.toNat ≤ 127 by omega)

theorem isDigit_digitOctet {c : Char} (h : c.isDigit = true) : isDigit (digitOctet c) = true := by
  have hrange := toNat_of_isDigit h
  simp only [isDigit, Bool.and_eq_true, decide_eq_true_eq, UInt8.le_iff_toNat_le,
    toNat_digitOctet h]
  exact hrange

/-- The digits of a number are those of its quotient by ten and one more, so none but zero starts
with a zero. -/
theorem head?_toDigits (n : Nat) (hn : 0 < n) : (Nat.toDigits 10 n).head? ≠ some '0' := by
  induction n using Nat.strongRecOn with
  | ind n ih =>
      by_cases hlt : n < 10
      · rw [Nat.toDigits_of_lt_base hlt]
        have hdigit : ∀ d < 10, 0 < d → d.digitChar ≠ '0' := by decide
        exact fun h => hdigit n hlt hn (Option.some.inj h)
      · rw [Nat.toDigits_of_base_le (by decide) (by omega),
          List.head?_append_of_ne_nil _ Nat.toDigits_ne_nil]
        exact ih (n / 10) (by omega) (by omega)

theorem flatMap_utf8EncodeChar_of_isDigit {cs : List Char} (h : ∀ c ∈ cs, c.isDigit = true) :
    cs.flatMap String.utf8EncodeChar = cs.map digitOctet := by
  induction cs with
  | nil => rfl
  | cons c cs ih =>
      rw [List.flatMap_cons, utf8EncodeChar_of_isDigit (h c List.mem_cons_self),
        ih fun x hx => h x (List.mem_cons_of_mem _ hx)]
      rfl

theorem naturalFrom_digitOctet {cs : List Char} (h : ∀ c ∈ cs, c.isDigit = true) (start : Nat) :
    naturalFrom start (cs.map digitOctet) = Nat.ofDigitChars 10 cs start := by
  induction cs generalizing start with
  | nil => rfl
  | cons c cs ih =>
      rw [Nat.ofDigitChars_cons, ← ih fun x hx => h x (List.mem_cons_of_mem _ hx), List.map_cons]
      show naturalFrom (start * 10 + digitValue (digitOctet c)) _ = _
      rw [digitValue, toNat_digitOctet (h c List.mem_cons_self), Nat.mul_comm]
      rfl

/-- The literal of an integer: its decimal digits after a sign if it is negative. -/
def decimalLiteral (negative : Bool) (n : Nat) : NumberLiteral where
  negative := negative
  whole := (Nat.toDigits 10 n).map digitOctet
  fraction := none
  exponent := none
  whole_valid := by
    refine ⟨by simp, fun d hd => ?_⟩
    obtain ⟨c, hc, rfl⟩ := List.mem_map.1 hd
    exact isDigit_digitOctet (Nat.isDigit_of_mem_toDigits (by decide) (by decide) hc)
  zero_valid := by
    rcases Nat.eq_zero_or_pos n with rfl | hn
    · exact fun _ => by decide
    · intro hhead
      rw [List.head?_map] at hhead
      obtain ⟨c, hc, hzero⟩ := Option.map_eq_some_iff.1 hhead
      have hdigit : c.isDigit = true :=
        Nat.isDigit_of_mem_toDigits (by decide) (by decide) (List.mem_of_head? hc)
      have hchar : c = '0' := Char.toNat_inj.1
        ((toNat_digitOctet hdigit).symm.trans (congrArg UInt8.toNat hzero))
      rw [hchar] at hc
      exact absurd hc (head?_toDigits n hn)
  fraction_valid := fun _ h => nomatch h

theorem naturalOf_decimalLiteral (negative : Bool) (n : Nat) :
    naturalOf (decimalLiteral negative n).whole = n := by
  have hdigits : ∀ c ∈ Nat.toDigits 10 n, c.isDigit = true :=
    fun c hc => Nat.isDigit_of_mem_toDigits (by decide) (by decide) hc
  exact (naturalFrom_digitOctet hdigits 0).trans Nat.ofDigitChars_ten_toDigits

theorem encode_decimalNat (negative : Bool) (n : Nat) :
    Utf8.encode (Text.decimalNat n) = (decimalLiteral negative n).unsigned := by
  rw [Text.decimalNat, Utf8.encode_ofList, flatMap_utf8EncodeChar_of_isDigit fun c hc =>
    Nat.isDigit_of_mem_toDigits (by decide) (by decide) hc]
  exact (List.append_nil _).symm

theorem encode_decimal (i : Int) :
    Utf8.encode (Text.decimal i) = (decimalLiteral (i < 0) i.natAbs).bytes := by
  have hminus : Utf8.encode "-" = [0x2D] := by decide
  cases i with
  | ofNat n => exact encode_decimalNat false n
  | negSucc n =>
      rw [Text.decimal, Utf8.encode_append, hminus, encode_decimalNat true,
        decide_eq_true (Int.negSucc_lt_zero n)]
      rfl

theorem integer_decimalLiteral (i : Int) : (decimalLiteral (i < 0) i.natAbs).integer = i := by
  rw [NumberLiteral.integer, naturalOf_decimalLiteral]
  show (if decide (i < 0) = true then -(i.natAbs : Int) else i.natAbs) = i
  by_cases hnegative : i < 0
  · rw [if_pos (decide_eq_true hnegative)]
    omega
  · rw [if_neg (by simpa using hnegative)]
    omega

/-- What is written for a 32-bit integer is a number that stands for it. -/
theorem written_int32 (i : Int32) : Written (Text.decimal i.toInt) Tree.int32? i := by
  refine ⟨.number (decimalLiteral (i.toInt < 0) i.toInt.natAbs), ?_, ?_⟩
  · rw [encode_decimal, Tree.tokens]
    simp
  · have hlow := i.le_toInt
    have hhigh := i.toInt_lt
    rw [Tree.int32?, NumberLiteral.int32?, integer_decimalLiteral, if_pos, Int32.ofInt_toInt]
    refine ⟨rfl, rfl, ?_, hlow, by omega⟩
    rintro ⟨hnegative, hzero⟩
    rw [decimalLiteral, hzero] at hnegative
    cases hnegative

/-! ## Literals of integers -/

theorem digitValue_lt {d : UInt8} (h : isDigit d = true) : digitValue d < 10 := by
  have := toNat_of_digit h
  rw [digitValue]
  omega

/-- The digit of a digit's value is the digit. -/
theorem digitOctet_digitChar {d : UInt8} (h : isDigit d = true) :
    digitOctet (digitValue d).digitChar = d := by
  have hrange := toNat_of_digit h
  have hall : ∀ k < 10, digitOctet k.digitChar = UInt8.ofNat (0x30 + k) := by decide
  rw [hall _ (digitValue_lt h), digitValue, Nat.add_sub_cancel' hrange.1, UInt8.ofNat_toNat]

/-- Digits after those of a positive number are the digits of what they make up together. -/
theorem map_toDigits_naturalFrom {digits : Bytes} (hdigits : ∀ d ∈ digits, isDigit d = true) :
    ∀ {start : Nat}, 0 < start →
      (Nat.toDigits 10 (naturalFrom start digits)).map digitOctet =
        (Nat.toDigits 10 start).map digitOctet ++ digits := by
  induction digits with
  | nil =>
      intro start _
      exact (List.append_nil _).symm
  | cons d digits ih =>
      intro start hstart
      have hd := hdigits d List.mem_cons_self
      have hlast : Nat.toDigits 10 (start * 10 + digitValue d) =
          Nat.toDigits 10 start ++ [(digitValue d).digitChar] := by
        rw [Nat.mul_comm, ← Nat.toDigits_append_toDigits (by decide) hstart (digitValue_lt hd),
          Nat.toDigits_of_lt_base (digitValue_lt hd)]
      show (Nat.toDigits 10 (naturalFrom (start * 10 + digitValue d) digits)).map digitOctet = _
      rw [ih (fun x hx => hdigits x (List.mem_cons_of_mem _ hx)) (by omega), hlast, List.map_append,
        List.map_singleton, digitOctet_digitChar hd, List.append_assoc, List.singleton_append]

namespace NumberLiteral

/-- The whole digits of a literal are the decimal digits of their value, since a zero in front
stands alone. -/
theorem map_toDigits_whole (n : NumberLiteral) :
    (Nat.toDigits 10 (naturalOf n.whole)).map digitOctet = n.whole := by
  obtain ⟨d, digits, hwhole, hd⟩ := n.whole_valid.head
  by_cases hzero : d = 0x30
  · have hsingle : n.whole = [0x30] := n.zero_valid (by rw [hwhole, hzero]; rfl)
    rw [hsingle]
    decide
  · have hpos : 0 < digitValue d := by
      have hrange := toNat_of_digit hd
      have hne : d.toNat ≠ 0x30 := fun h => hzero (UInt8.toNat_inj.1 h)
      rw [digitValue]
      omega
    have hdigits : ∀ x ∈ digits, isDigit x = true := fun x hx =>
      n.whole_valid.2 x (hwhole ▸ List.mem_cons_of_mem _ hx)
    have hvalue : naturalOf n.whole = naturalFrom (digitValue d) digits := by
      rw [hwhole]
      show naturalFrom (0 * 10 + digitValue d) digits = _
      rw [Nat.zero_mul, Nat.zero_add]
    rw [hvalue, map_toDigits_naturalFrom hdigits hpos, Nat.toDigits_of_lt_base (digitValue_lt hd),
      List.map_singleton, digitOctet_digitChar hd, hwhole, List.singleton_append]

theorem bytes_of_isPlain {n : NumberLiteral} (h : n.IsPlain) :
    n.bytes = (if n.negative then [0x2D] else []) ++ n.whole := by
  simp [bytes, unsigned, tail, h.1, h.2]

/-- A plain literal stands for zero with a minus sign only as it is written so. -/
theorem bytes_eq_negativeZero_iff {n : NumberLiteral} (h : n.IsPlain) :
    n.bytes = Utf8.encode "-0" ↔ n.negative = true ∧ n.integer = 0 := by
  have htext : Utf8.encode "-0" = [0x2D, 0x30] := by decide
  rw [bytes_of_isPlain h, htext]
  constructor
  · intro hbytes
    cases hnegative : n.negative with
    | true =>
        rw [hnegative] at hbytes
        have hwhole : n.whole = [0x30] := by simpa using hbytes
        refine ⟨rfl, ?_⟩
        rw [integer, hnegative, hwhole]
        decide
    | false =>
        obtain ⟨d, digits, hwhole, hd⟩ := n.whole_valid.head
        rw [hnegative, hwhole] at hbytes
        have hsign : d = 0x2D := by simpa using congrArg List.head? hbytes
        exact absurd hsign (ne_of_isDigit hd).2.1
  · rintro ⟨hnegative, hzero⟩
    rw [integer, if_pos hnegative] at hzero
    have hvalue : naturalOf n.whole = 0 := by omega
    have hwhole := n.map_toDigits_whole
    rw [hvalue] at hwhole
    rw [if_pos hnegative, ← hwhole]
    decide

/-- The literals of 32-bit integers. -/
theorem exists_int32?_iff {n : NumberLiteral} :
    (∃ i, n.int32? = some i) ↔ n.fraction = none ∧ n.exponent = none ∧ n.bytes ≠ Utf8.encode "-0" ∧
      -2147483648 ≤ n.integer ∧ n.integer ≤ 2147483647 := by
  unfold int32?
  constructor
  · rintro ⟨i, hi⟩
    obtain ⟨⟨hfraction, hexponent, hzero, hrange⟩, -⟩ := Option.ite_none_right_eq_some.1 hi
    have hplain : n.IsPlain :=
      ⟨Option.isNone_iff_eq_none.1 hfraction, Option.isNone_iff_eq_none.1 hexponent⟩
    exact ⟨hplain.1, hplain.2, fun h => hzero ((bytes_eq_negativeZero_iff hplain).1 h), hrange⟩
  · rintro ⟨hfraction, hexponent, hzero, hrange⟩
    refine ⟨_, if_pos ⟨by rw [hfraction]; rfl, by rw [hexponent]; rfl, fun h => hzero ?_, hrange⟩⟩
    exact (bytes_eq_negativeZero_iff ⟨hfraction, hexponent⟩).2 h

/-- A literal that is read as a 32-bit integer is what is written for the integer. -/
theorem encode_decimal_of_int32? {n : NumberLiteral} {i : Int32} (h : n.int32? = some i) :
    i.toInt = n.integer ∧ Utf8.encode (Text.decimal n.integer) = n.bytes := by
  obtain ⟨⟨hfraction, hexponent, hzero, hlow, hhigh⟩, hi⟩ := Option.ite_none_right_eq_some.1 h
  have hplain : n.IsPlain :=
    ⟨Option.isNone_iff_eq_none.1 hfraction, Option.isNone_iff_eq_none.1 hexponent⟩
  refine ⟨?_, ?_⟩
  · rw [← Option.some.inj hi]
    exact Int32.toInt_ofInt_of_le hlow (by omega)
  · have hsign : decide (n.integer < 0) = n.negative ∧ n.integer.natAbs = naturalOf n.whole := by
      unfold integer at hzero ⊢
      cases hnegative : n.negative with
      | true =>
          rw [hnegative] at hzero
          have hne : naturalOf n.whole ≠ 0 := fun h => hzero ⟨rfl, by rw [h]; rfl⟩
          refine ⟨decide_eq_true ?_, Int.natAbs_neg _⟩
          show -(naturalOf n.whole : Int) < 0
          omega
      | false =>
          refine ⟨decide_eq_false ?_, rfl⟩
          show ¬ (naturalOf n.whole : Int) < 0
          omega
    rw [encode_decimal, hsign.1, hsign.2, bytes_of_isPlain hplain]
    show (if n.negative then [0x2D] else []) ++
      ((Nat.toDigits 10 (naturalOf n.whole)).map digitOctet ++ []) = _
    rw [List.append_nil, n.map_toDigits_whole]

end NumberLiteral

/-! ## Arrays and objects -/

/-- Octets in order with a comma between neighbours. -/
def joined : List Bytes → Bytes
  | [] => []
  | piece :: pieces => piece ++ pieces.flatMap (0x2C :: ·)

theorem encode_joinWith (texts : List String) :
    Utf8.encode (Text.joinWith "," texts) = joined (texts.map Utf8.encode) := by
  have hcomma : Utf8.encode "," = [0x2C] := by decide
  cases texts with
  | nil => rfl
  | cons s texts =>
      induction texts generalizing s with
      | nil => simp [Text.joinWith, joined]
      | cons t texts ih =>
          rw [Text.joinWith, Utf8.encode_append, Utf8.encode_append, ih, hcomma]
          simp [joined]

theorem flatten_itemTokens_false (items : List Tree) :
    (Tree.itemTokens false items).flatten =
      (items.map fun t => t.tokens.flatten).flatMap (0x2C :: ·) ++ [0x5D] := by
  induction items with
  | nil =>
      rw [Tree.itemTokens]
      rfl
  | cons t items ih =>
      rw [Tree.itemTokens]
      simp [ih]

theorem flatten_itemTokens_true (items : List Tree) :
    (Tree.itemTokens true items).flatten =
      joined (items.map fun t => t.tokens.flatten) ++ [0x5D] := by
  cases items with
  | nil =>
      rw [Tree.itemTokens]
      rfl
  | cons t items =>
      rw [Tree.itemTokens]
      simp [joined, flatten_itemTokens_false]

/-- The octets of a member without blanks. -/
def memberBytes (m : List TextUnit × Tree) : Bytes :=
  Tree.quoted m.1 ++ 0x3A :: m.2.tokens.flatten

theorem flatten_memberTokens_false (members : List (List TextUnit × Tree)) :
    (Tree.memberTokens false members).flatten =
      (members.map memberBytes).flatMap (0x2C :: ·) ++ [0x7D] := by
  induction members with
  | nil =>
      rw [Tree.memberTokens]
      rfl
  | cons m members ih =>
      rw [Tree.memberTokens]
      simp [ih, memberBytes]

theorem flatten_memberTokens_true (members : List (List TextUnit × Tree)) :
    (Tree.memberTokens true members).flatten = joined (members.map memberBytes) ++ [0x7D] := by
  cases members with
  | nil =>
      rw [Tree.memberTokens]
      rfl
  | cons m members =>
      rw [Tree.memberTokens]
      simp [joined, flatten_memberTokens_false, memberBytes]

theorem encode_writeList {texts : List String} {items : List Tree}
    (h : texts.map Utf8.encode = items.map fun t => t.tokens.flatten) :
    Utf8.encode (writeList texts) = (Tree.list items).tokens.flatten := by
  have hopen : Utf8.encode "[" = [0x5B] := by decide
  have hclose : Utf8.encode "]" = [0x5D] := by decide
  rw [writeList, Utf8.encode_append, Utf8.encode_append, encode_joinWith, h, hopen, hclose,
    Tree.tokens, List.flatten_cons, flatten_itemTokens_true, List.append_assoc]

theorem encode_writeObject {texts : List (String × String)} {members : List (List TextUnit × Tree)}
    (h : (texts.map fun m => writeText m.1 ++ ":" ++ m.2).map Utf8.encode =
      members.map memberBytes) :
    Utf8.encode (writeObject texts) = (Tree.object members).tokens.flatten := by
  have hopen : Utf8.encode "\x7b" = [0x7B] := by decide
  have hclose : Utf8.encode "\x7d" = [0x7D] := by decide
  rw [writeObject, Utf8.encode_append, Utf8.encode_append, encode_joinWith, h, hopen, hclose,
    Tree.tokens, List.flatten_cons, flatten_memberTokens_true, List.append_assoc]

theorem written_list {α : Type} {write : α → String} {view : Tree → Option α} (as : List α)
    (h : ∀ a ∈ as, Written (write a) view a) :
    Written (writeList (as.map write)) (Tree.list? view) as := by
  have hitems : ∃ items : List Tree, ((as.map write).map Utf8.encode =
      items.map fun t => t.tokens.flatten) ∧ items.mapM view = some as := by
    induction as with
    | nil => exact ⟨[], rfl, rfl⟩
    | cons a as ih =>
        obtain ⟨t, hbytes, hview⟩ := h a List.mem_cons_self
        obtain ⟨items, hall, hviews⟩ := ih fun x hx => h x (List.mem_cons_of_mem _ hx)
        exact ⟨t :: items, by simp only [List.map_cons, hbytes, hall],
          by simp [List.mapM_cons, hview, hviews]⟩
  obtain ⟨items, hall, hviews⟩ := hitems
  exact ⟨.list items, encode_writeList hall, hviews⟩

/-- A name and a written value are a member. -/
theorem exists_member {α : Type} {view : Tree → Option α} {text : String} {a : α} (name : String)
    (h : Written text view a) :
    ∃ m : List TextUnit × Tree, Utf8.encode (writeText name ++ ":" ++ text) = memberBytes m ∧
      TextUnit.value? m.1 = some name ∧ view m.2 = some a := by
  have hcolon : Utf8.encode ":" = [0x3A] := by decide
  obtain ⟨us, hname, hvalue⟩ := exists_units_of_writeText name
  obtain ⟨t, htext, hview⟩ := h
  refine ⟨(us, t), ?_, hvalue, hview⟩
  rw [Utf8.encode_append, Utf8.encode_append, hname, htext, hcolon, memberBytes, List.append_assoc,
    List.singleton_append]

/-- The written members of a map are texts under their names. -/
theorem exists_text_members (entries : List (String × String)) :
    ∃ members : List (List TextUnit × Tree),
      ((entries.map fun e => (e.1, writeText e.2)).map fun m => writeText m.1 ++ ":" ++ m.2).map
        Utf8.encode = members.map memberBytes ∧
      ∀ texts, textsOf texts members = some (texts.insertAll entries) := by
  induction entries with
  | nil => exact ⟨[], rfl, fun _ => rfl⟩
  | cons e entries ih =>
      obtain ⟨members, hall, htexts⟩ := ih
      obtain ⟨m, hbytes, hname, hview⟩ := exists_member e.1 (written_text e.2)
      refine ⟨m :: members, by simp only [List.map_cons, hbytes, hall], fun texts => ?_⟩
      rw [textsOf, hname, Option.bind_some, hview, Option.bind_some, htexts]
      rfl

/-- Written members, one for each slot under its name, with the change that they make together. -/
inductive WrittenMembers {α : Type} : List (Slot α) → List (String × String) → (α → α) → Prop where
  | nil : WrittenMembers [] [] id
  | cons {slot : Slot α} {slots : List (Slot α)} {text : String} {members : List (String × String)}
    {change rest : α → α} : Written text slot.view change → WrittenMembers slots members rest →
    WrittenMembers (slot :: slots) ((slot.name, text) :: members) (rest ∘ change)

/-- The written members of a record make the changes that were written. -/
theorem WrittenMembers.exists_changes {α : Type} {layout : Layout α} (hlayout : layout.WellFormed)
    {slots : List (Slot α)} {texts : List (String × String)} {change : α → α}
    (h : WrittenMembers slots texts change) (hslots : ∀ slot ∈ slots, slot ∈ layout.slots) :
    ∃ members cs, (texts.map fun m => writeText m.1 ++ ":" ++ m.2).map Utf8.encode =
        members.map memberBytes ∧
      layout.changes members = some cs ∧ Layout.names cs = slots.map (·.name) ∧
      ∀ record, Layout.apply cs record = change record := by
  induction h with
  | nil => exact ⟨[], [], rfl, rfl, rfl, fun _ => rfl⟩
  | @cons slot slots text texts change rest hfirst _ ih =>
      obtain ⟨members, cs, hbytes, hchanges, hnames, happly⟩ :=
        ih fun s hs => hslots s (List.mem_cons_of_mem _ hs)
      obtain ⟨m, hmember, hname, hview⟩ := exists_member slot.name hfirst
      have hslot := hlayout.slot?_name (hslots slot List.mem_cons_self)
      refine ⟨m :: members, (slot.name, change) :: cs, by simp only [List.map_cons, hmember,
        hbytes], ?_, congrArg (slot.name :: ·) hnames, fun record => happly (change record)⟩
      rw [Layout.changes, Layout.change, hname, hchanges]
      simp [hslot, hview]

/-- What is written for some members of a record, each under its name and none twice, says the blank
record with these members, if those that must be there are. -/
theorem written_members {α : Type} {layout : Layout α} (hlayout : layout.WellFormed)
    {slots : List (Slot α)} {texts : List (String × String)} {change : α → α}
    (h : WrittenMembers slots texts change) (hslots : ∀ slot ∈ slots, slot ∈ layout.slots)
    (hdistinct : (slots.map (·.name)).Nodup) (hcomplete : layout.Complete (slots.map (·.name))) :
    Written (writeObject texts) layout.view (change layout.blank) := by
  obtain ⟨members, cs, hbytes, hchanges, hnames, happly⟩ := h.exists_changes hlayout hslots
  rw [← hnames] at hdistinct hcomplete
  exact ⟨.object members, encode_writeObject hbytes,
    Layout.view_object_eq_some.2 ⟨cs, hchanges, hdistinct, hcomplete, (happly _).symm⟩⟩

/-- What is written for a record, every member under its name and in order, says the record. -/
theorem written_record {α : Type} {layout : Layout α} (hlayout : layout.WellFormed)
    {texts : List (String × String)} {change : α → α}
    (h : WrittenMembers layout.slots texts change) :
    Written (writeObject texts) layout.view (change layout.blank) :=
  written_members hlayout h (fun _ hs => hs) hlayout.distinct fun _ hslot _ =>
    List.mem_map_of_mem hslot

theorem Written.slot {α β : Type} {inner : Reader β} {view : Tree → Option β}
    (hinner : Reads inner view) {text : String} {b : β} (h : Written text view b) (name : String)
    (required : Bool) (set : β → α → α) :
    Written text (Slot.of name required inner set).view (set b) := by
  obtain ⟨t, hbytes, hview⟩ := h
  refine ⟨t, hbytes, ?_⟩
  rw [(reads_slot_of hinner name required set).slot_view]
  show (view t).map set = _
  rw [hview]
  rfl

/-- A written text is read as what was written. -/
theorem Written.readAll_eq {α : Type} {read : Reader α} {view : Tree → Option α}
    (hread : Reads read view) {text : String} {a : α} (h : Written text view a) :
    readAll read (Utf8.encode text) = .ok a := by
  obtain ⟨t, hbytes, hview⟩ := h
  have hspells : Spells t (Utf8.encode text) := by
    rw [hbytes]
    exact .flatten t.tokens
  have hoption := hread.readAll_eq hspells
  rw [hview] at hoption
  cases hresult : readAll read (Utf8.encode text) with
  | error e =>
      rw [hresult] at hoption
      cases hoption
  | ok b =>
      rw [hresult] at hoption
      exact congrArg Except.ok (Option.some.inj hoption)

end ApiStubs.Json
