import ApiStubs.Json.Skip

/-!
# JSON texts as trees

A `Tree` is what a JSON text says without the blanks between its tokens.  Strings and numbers keep
their spelling, and a tree carries the proofs that they are well formed, so every tree is the tree
of some text.  `Spells t b` holds when `b` is the tokens of `t` with any blanks before, between and
after them.
-/

namespace ApiStubs.Json

/-! ## Strings -/

/-- What a string is made of between its quotes. -/
inductive TextUnit where
  /-- an octet that stands for itself -/
  | plain (octet : UInt8) (h : octet ≠ 0x22 ∧ octet ≠ 0x5C ∧ ¬ octet < 0x20)
  /-- a backslash and a letter -/
  | escape (letter : UInt8) (h : (simpleEscape? letter).isSome)
  /-- a backslash, a `u` and four hexadecimal digits -/
  | code (a b c d : UInt8) (h : (hexNumber? 0 [a, b, c, d]).isSome)
  deriving DecidableEq

namespace TextUnit

/-- The octets of a unit. -/
def bytes : TextUnit → Bytes
  | .plain octet _ => [octet]
  | .escape letter _ => [0x5C, letter]
  | .code a b c d _ => [0x5C, 0x75, a, b, c, d]

/-- The octets of units in a row. -/
def allBytes (units : List TextUnit) : Bytes := units.flatMap bytes

@[simp]
theorem allBytes_nil : allBytes [] = [] := rfl

@[simp]
theorem allBytes_cons (u : TextUnit) (us : List TextUnit) :
    allBytes (u :: us) = u.bytes ++ allBytes us := rfl

theorem allBytes_append (us vs : List TextUnit) :
    allBytes (us ++ vs) = allBytes us ++ allBytes vs :=
  List.flatMap_append

/-- Whether a code unit is the second half of a pair. -/
def IsLow (n : Nat) : Prop := 0xDC00 ≤ n ∧ n ≤ 0xDFFF

/-- Whether a code unit is the first half of a pair. -/
def IsHigh (n : Nat) : Prop := 0xD800 ≤ n ∧ n ≤ 0xDBFF

instance (n : Nat) : Decidable (IsLow n) := inferInstanceAs (Decidable (_ ∧ _))

instance (n : Nat) : Decidable (IsHigh n) := inferInstanceAs (Decidable (_ ∧ _))

/-- The code point that two halves make. -/
def pair (high low : Nat) : Nat := 0x10000 + (high - 0xD800) * 0x400 + (low - 0xDC00)

/-- The octets that a string stands for; none if half of a pair stands alone. -/
def content? : List TextUnit → Option Bytes
  | [] => some []
  | .plain octet _ :: us => (content? us).map (octet :: ·)
  | .escape letter h :: us => (content? us).map ((simpleEscape? letter).get h :: ·)
  | .code a b c d h :: us =>
    let n := (hexNumber? 0 [a, b, c, d]).get h
    if IsLow n then none
    else if IsHigh n then
      match us with
      | .code a' b' c' d' h' :: rest =>
        let m := (hexNumber? 0 [a', b', c', d']).get h'
        if IsLow m then (content? rest).map (codeBytes (pair n m) ++ ·) else none
      | _ => none
    else (content? us).map (codeBytes n ++ ·)

/-- The text that a string stands for; none if its octets are no text. -/
def value? (units : List TextUnit) : Option String := (content? units).bind Utf8.decode?

end TextUnit

/-! ## Numbers -/

/-- At least one octet, and only digits. -/
def IsDigits (bytes : Bytes) : Prop := bytes ≠ [] ∧ ∀ d ∈ bytes, isDigit d = true

/-- The exponent of a number. -/
structure Exponent where
  mark : UInt8
  sign : Option UInt8
  digits : Bytes
  mark_valid : isExponentMark mark = true
  sign_valid : ∀ b ∈ sign, b = 0x2B ∨ b = 0x2D
  digits_valid : IsDigits digits

/-- The octets of an exponent. -/
def Exponent.bytes (e : Exponent) : Bytes := e.mark :: (e.sign.toList ++ e.digits)

/-- A number as it is written. -/
structure NumberLiteral where
  negative : Bool
  whole : Bytes
  /-- the digits after the point -/
  fraction : Option Bytes
  exponent : Option Exponent
  whole_valid : IsDigits whole
  /-- a zero in front stands alone -/
  zero_valid : whole.head? = some 0x30 → whole = [0x30]
  fraction_valid : ∀ f ∈ fraction, IsDigits f

namespace NumberLiteral

/-- The octets after the whole digits. -/
def tail (n : NumberLiteral) : Bytes :=
  (n.fraction.elim [] fun f => 0x2E :: f) ++ n.exponent.elim [] Exponent.bytes

/-- The octets of a number after its sign. -/
def unsigned (n : NumberLiteral) : Bytes := n.whole ++ n.tail

/-- The octets of a number. -/
def bytes (n : NumberLiteral) : Bytes := (if n.negative then [0x2D] else []) ++ n.unsigned

/-- Whether the number has neither a fraction nor an exponent. -/
def IsPlain (n : NumberLiteral) : Prop := n.fraction = none ∧ n.exponent = none

end NumberLiteral

/-! ## Trees and their tokens -/

/-- A JSON text without its blanks. -/
inductive Tree where
  | null
  | bool (value : Bool)
  | number (literal : NumberLiteral)
  | text (units : List TextUnit)
  | list (items : List Tree)
  /-- members in the order in which they stand, under their written names -/
  | object (members : List (List TextUnit × Tree))

namespace Tree

/-- The token of a string. -/
def quoted (units : List TextUnit) : Bytes := 0x22 :: (TextUnit.allBytes units ++ [0x22])

mutual

/-- The tokens of a tree, in order. -/
def tokens : Tree → List Bytes
  | .null => [0x6E :: nullTail]
  | .bool true => [0x74 :: trueTail]
  | .bool false => [0x66 :: falseTail]
  | .number n => [n.bytes]
  | .text units => [quoted units]
  | .list items => [0x5B] :: itemTokens true items
  | .object members => [0x7B] :: memberTokens true members

/-- The tokens of elements up to the closing bracket, with a comma before each but the first. -/
def itemTokens (first : Bool) : List Tree → List Bytes
  | [] => [[0x5D]]
  | t :: rest => (if first then [] else [[0x2C]]) ++ (t.tokens ++ itemTokens false rest)

/-- The tokens of members up to the closing bracket, with a comma before each but the first. -/
def memberTokens (first : Bool) : List (List TextUnit × Tree) → List Bytes
  | [] => [[0x7D]]
  | (name, t) :: rest =>
    (if first then [] else [[0x2C]]) ++
      (quoted name :: [0x3A] :: (t.tokens ++ memberTokens false rest))

end

end Tree

/-! ## Blanks -/

/-- Octets that are nothing but blanks. -/
def IsBlank (bytes : Bytes) : Prop := ∀ b ∈ bytes, isSpace b = true

/-- Tokens in order, with any blanks before, between and after them. -/
inductive Spaced : List Bytes → Bytes → Prop where
  | done {blanks : Bytes} : IsBlank blanks → Spaced [] blanks
  | token {blanks t : Bytes} {ts : List Bytes} {bytes : Bytes} :
    IsBlank blanks → Spaced ts bytes → Spaced (t :: ts) (blanks ++ (t ++ bytes))

/-- The octets are a text of the tree. -/
def Spells (t : Tree) (bytes : Bytes) : Prop := Spaced t.tokens bytes

/-- A token starts with an octet that is no blank. -/
def Solid (t : Bytes) : Prop := ∃ b rest, t = b :: rest ∧ isSpace b = false

theorem dropWhile_isSpace_append {blanks : Bytes} (h : IsBlank blanks) (rest : Bytes) :
    skipSpace (blanks ++ rest) = skipSpace rest := by
  induction blanks with
  | nil => rfl
  | cons b blanks ih =>
      have hb : isSpace b = true := h b List.mem_cons_self
      have hrest : IsBlank blanks := fun x hx => h x (List.mem_cons_of_mem _ hx)
      simp only [skipSpace, List.cons_append, List.dropWhile_cons, hb, if_true]
      exact ih hrest

theorem skipSpace_cons {b : UInt8} (h : isSpace b = false) (rest : Bytes) :
    skipSpace (b :: rest) = b :: rest := by
  simp [skipSpace, h]

theorem Solid.skipSpace_append {t : Bytes} (h : Solid t) (rest : Bytes) :
    skipSpace (t ++ rest) = t ++ rest := by
  obtain ⟨b, more, rfl, hb⟩ := h
  exact skipSpace_cons hb _

/-- Past the blanks stands the next token. -/
theorem Spaced.skipSpace_eq {t : Bytes} {ts : List Bytes} {bytes : Bytes}
    (h : Spaced (t :: ts) bytes) (ht : Solid t) :
    ∃ rest, skipSpace bytes = t ++ rest ∧ Spaced ts rest := by
  cases h with
  | token hblank hrest =>
      rename_i blanks rest
      exact ⟨rest, by rw [dropWhile_isSpace_append hblank, ht.skipSpace_append], hrest⟩

theorem Spaced.skipSpace_octet {b : UInt8} {ts : List Bytes} {bytes : Bytes}
    (h : Spaced ([b] :: ts) bytes) (hb : isSpace b = false) :
    ∃ rest, skipSpace bytes = b :: rest ∧ Spaced ts rest :=
  h.skipSpace_eq ⟨b, [], rfl, hb⟩

theorem Spaced.skipSpace_nil {bytes : Bytes} (h : Spaced [] bytes) : skipSpace bytes = [] := by
  cases h with
  | done hblank =>
      have hskip : skipSpace (bytes ++ []) = skipSpace [] := dropWhile_isSpace_append hblank []
      rwa [List.append_nil] at hskip

/-- Octets are their leading blanks and what comes after these. -/
theorem exists_blank_append (bytes : Bytes) :
    ∃ blanks, IsBlank blanks ∧ bytes = blanks ++ skipSpace bytes :=
  ⟨bytes.takeWhile isSpace, List.all_eq_true.1 List.all_takeWhile,
    List.takeWhile_append_dropWhile.symm⟩

theorem Spaced.blank_append {ts : List Bytes} {blanks bytes : Bytes} (h : Spaced ts bytes)
    (hblank : IsBlank blanks) : Spaced ts (blanks ++ bytes) := by
  cases h with
  | done hbytes => exact .done fun b hb => (List.mem_append.1 hb).elim (hblank b) (hbytes b)
  | token hbefore hrest =>
      rename_i before t ts rest
      rw [← List.append_assoc]
      exact .token (fun b hb => (List.mem_append.1 hb).elim (hblank b) (hbefore b)) hrest

/-- A token found past the blanks is the first of the text's tokens. -/
theorem Spaced.of_skipSpace {t rest bytes : Bytes} {ts : List Bytes}
    (h : skipSpace bytes = t ++ rest) (hrest : Spaced ts rest) : Spaced (t :: ts) bytes := by
  obtain ⟨blanks, hblank, hbytes⟩ := exists_blank_append bytes
  rw [hbytes, h]
  exact .token hblank hrest

theorem Spaced.of_skipSpace_nil {bytes : Bytes} (h : skipSpace bytes = []) : Spaced [] bytes := by
  obtain ⟨blanks, hblank, hbytes⟩ := exists_blank_append bytes
  rw [hbytes, h, List.append_nil]
  exact .done hblank

/-- Tokens without any blanks. -/
theorem Spaced.flatten (ts : List Bytes) : Spaced ts ts.flatten := by
  induction ts with
  | nil => exact .done (by simp [IsBlank])
  | cons t ts ih =>
      have hnone : IsBlank [] := by simp [IsBlank]
      simpa using Spaced.token (t := t) hnone ih

/-- A text has at least one octet for each of its first tokens. -/
theorem Spaced.length_le {ts more : List Bytes} {bytes : Bytes} (h : Spaced (ts ++ more) bytes)
    (hts : ∀ t ∈ ts, Solid t) : ts.length ≤ bytes.length := by
  induction ts generalizing bytes with
  | nil => simp
  | cons t ts ih =>
      obtain ⟨b, tail, rfl, -⟩ := hts t List.mem_cons_self
      cases h with
      | token _ hrest =>
          have := ih hrest fun t ht => hts t (List.mem_cons_of_mem _ ht)
          simp only [List.length_cons, List.length_append]
          omega

/-! ## Tokens in front of a place -/

/-- The tokens stand in front of `rest`: a text of what follows is one of all of it with them. -/
def Precedes (ts : List Bytes) (bytes rest : Bytes) : Prop :=
  ∀ us, Spaced us rest → Spaced (ts ++ us) bytes

theorem Precedes.append {ts us : List Bytes} {bytes middle rest : Bytes}
    (hts : Precedes ts bytes middle) (hus : Precedes us middle rest) :
    Precedes (ts ++ us) bytes rest := by
  intro vs hvs
  rw [List.append_assoc]
  exact hts _ (hus vs hvs)

theorem precedes_token {t rest bytes : Bytes} (h : skipSpace bytes = t ++ rest) :
    Precedes [t] bytes rest := fun _ hrest => .of_skipSpace h hrest

theorem precedes_octet {b : UInt8} {rest bytes : Bytes} (h : skipSpace bytes = b :: rest) :
    Precedes [[b]] bytes rest := precedes_token h

/-- What stands in front without the leading blanks stands in front. -/
theorem Precedes.of_skipSpace {ts : List Bytes} {bytes start rest : Bytes}
    (hskip : skipSpace bytes = start) (h : Precedes ts start rest) : Precedes ts bytes rest := by
  intro us hus
  obtain ⟨blanks, hblank, hbytes⟩ := exists_blank_append bytes
  rw [hbytes, hskip]
  exact (h us hus).blank_append hblank

/-! ## What may follow a value -/

/-- After the tokens of a value comes nothing, a comma or a closing bracket. -/
def Ends (ts : List Bytes) : Prop := ∀ t, ts.head? = some t → t = [0x2C] ∨ t = [0x5D] ∨ t = [0x7D]

/-- The octets start with none that could belong to a number. -/
def Separated (bytes : Bytes) : Prop :=
  ∀ b rest, bytes = b :: rest →
    isDigit b = false ∧ b ≠ 0x2E ∧ isExponentMark b = false

theorem not_number_of_isSpace {b : UInt8} (h : isSpace b = true) :
    isDigit b = false ∧ b ≠ 0x2E ∧ isExponentMark b = false := by
  simp only [isSpace, Bool.or_eq_true, beq_iff_eq] at h
  rcases h with ((rfl | rfl) | rfl) | rfl <;> decide

theorem Spaced.separated {ts : List Bytes} {bytes : Bytes} (h : Spaced ts bytes) (hts : Ends ts) :
    Separated bytes := by
  intro b rest hb
  cases h with
  | done hblank => exact not_number_of_isSpace (hblank b (by rw [hb]; exact List.mem_cons_self))
  | token hblank hrest =>
      rename_i blanks t ts more
      cases blanks with
      | cons x blanks =>
          have hx : x = b := by simp only [List.cons_append, List.cons.injEq] at hb; exact hb.1
          exact not_number_of_isSpace (hblank b (by rw [← hx]; exact List.mem_cons_self))
      | nil =>
          rcases hts t rfl with rfl | rfl | rfl <;>
            (simp only [List.nil_append, List.cons_append, List.cons.injEq] at hb
             rw [← hb.1]
             decide)

theorem ends_nil : Ends [] := by
  intro t h
  cases h

theorem ends_itemTokens (items : List Tree) (ts : List Bytes) :
    Ends (Tree.itemTokens false items ++ ts) := by
  intro t h
  cases items with
  | nil =>
      rw [Tree.itemTokens] at h
      exact .inr (.inl (Option.some.inj h).symm)
  | cons item items =>
      rw [Tree.itemTokens] at h
      exact .inl (Option.some.inj h).symm

theorem ends_memberTokens (members : List (List TextUnit × Tree)) (ts : List Bytes) :
    Ends (Tree.memberTokens false members ++ ts) := by
  intro t h
  cases members with
  | nil =>
      rw [Tree.memberTokens] at h
      exact .inr (.inr (Option.some.inj h).symm)
  | cons member members =>
      rw [Tree.memberTokens] at h
      exact .inl (Option.some.inj h).symm

end ApiStubs.Json
