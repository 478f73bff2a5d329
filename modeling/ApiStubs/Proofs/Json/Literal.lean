import ApiStubs.Proofs.Json.Tree
import Mathlib.Data.List.Basic

/-!
# Strings and numbers

Reading a string or a number off the front of octets, for both the reader that wants its value and
the one that passes over it.  Each comes in two directions: what a well-formed literal in front
makes the reader answer, and that an answer means there was a well-formed literal in front.
-/

namespace ApiStubs.Json

/-! ## Strings -/

/-- The content read so far in front of what is read next. -/
def prepend (octets : Bytes) (result : Except Fault (Bytes × Bytes)) :
    Except Fault (Bytes × Bytes) :=
  match result with
  | .error e => .error e
  | .ok (content, after) => .ok (octets ++ content, after)

theorem toOption_prepend (octets : Bytes) (result : Except Fault (Bytes × Bytes)) :
    (prepend octets result).toOption = result.toOption.map fun r => (octets ++ r.1, r.2) := by
  cases result <;> rfl

/-- The letter that announces four digits is no escape of its own. -/
theorem ne_code_of_isSome_simpleEscape? {letter : UInt8} (h : (simpleEscape? letter).isSome) :
    letter ≠ 0x75 := by
  rintro rfl
  exact absurd h (by decide)

section

variable (rest : Bytes)

theorem textBytes_plain {octet : UInt8} (h : octet ≠ 0x22 ∧ octet ≠ 0x5C ∧ ¬ octet < 0x20) :
    textBytes .plain (octet :: rest) = prepend [octet] (textBytes .plain rest) := by
  rw [textBytes, if_neg h.1, if_neg h.2.1, if_neg h.2.2]
  cases textBytes .plain rest <;> rfl

theorem textBytes_escape {letter : UInt8} (h : (simpleEscape? letter).isSome) :
    textBytes .plain (0x5C :: letter :: rest) =
      prepend [(simpleEscape? letter).get h] (textBytes .plain rest) := by
  obtain ⟨octet, hoctet⟩ := Option.isSome_iff_exists.1 h
  rw [textBytes, if_neg (by decide), if_pos rfl, textBytes,
    if_neg (ne_code_of_isSome_simpleEscape? h)]
  simp only [hoctet, Option.get_some]
  cases textBytes .plain rest <;> rfl

/-- Four digits are gathered one by one before their number is looked at. -/
theorem textBytes_hex (leading : Option Nat) (a b c d : UInt8) :
    textBytes (.hex leading []) (a :: b :: c :: d :: rest) =
      match finishHex leading [a, b, c, d] with
      | .error e => .error e
      | .ok (.inr high) => textBytes (.pairSlash high) rest
      | .ok (.inl octets) => prepend octets (textBytes .plain rest) := by
  rw [textBytes, if_pos (by simp), textBytes, if_pos (by simp), textBytes, if_pos (by simp),
    textBytes, if_neg (by simp)]
  simp only [List.nil_append, List.cons_append]
  cases finishHex leading [a, b, c, d] with
  | error e => rfl
  | ok outcome =>
      cases outcome with
      | inr high => rfl
      | inl octets => cases textBytes .plain rest <;> rfl

theorem textBytes_code (a b c d : UInt8) :
    textBytes .plain (0x5C :: 0x75 :: a :: b :: c :: d :: rest) =
      textBytes (.hex none []) (a :: b :: c :: d :: rest) := by
  rw [textBytes, if_neg (by decide), if_pos rfl, textBytes, if_pos rfl]

/-- After the first half of a pair, only the second half can follow. -/
theorem textBytes_pairSlash_code (high : Nat) (a b c d : UInt8) :
    textBytes (.pairSlash high) (0x5C :: 0x75 :: a :: b :: c :: d :: rest) =
      textBytes (.hex (some high) []) (a :: b :: c :: d :: rest) := by
  simp only [textBytes, if_true]

theorem textBytes_pairSlash_error (high : Nat) (u : TextUnit) (us : List TextUnit)
    (h : ∀ a b c d hd, u ≠ .code a b c d hd) :
    ∃ e, textBytes (.pairSlash high) (TextUnit.allBytes (u :: us) ++ rest) = .error e := by
  cases u with
  | plain octet hoctet =>
      refine ⟨.unpairedEscape, ?_⟩
      show textBytes (.pairSlash high) (octet :: _) = _
      rw [textBytes, if_neg hoctet.2.1]
  | escape letter hletter =>
      refine ⟨.unpairedEscape, ?_⟩
      show textBytes (.pairSlash high) (0x5C :: letter :: _) = _
      rw [textBytes, if_pos rfl, textBytes, if_neg (ne_code_of_isSome_simpleEscape? hletter)]
  | code a b c d hd => exact absurd rfl (h a b c d hd)

end

section

variable {a b c d : UInt8} (h : (hexNumber? 0 [a, b, c, d]).isSome)

theorem finishHex_low (hlow : TextUnit.IsLow ((hexNumber? 0 [a, b, c, d]).get h)) :
    finishHex none [a, b, c, d] = .error .loneSurrogate := by
  obtain ⟨n, hn⟩ := Option.isSome_iff_exists.1 h
  simp only [hn, Option.get_some] at hlow
  simp only [finishHex, hn, if_pos (show 0xDC00 ≤ n ∧ n ≤ 0xDFFF from hlow)]

theorem finishHex_high (hlow : ¬ TextUnit.IsLow ((hexNumber? 0 [a, b, c, d]).get h))
    (hhigh : TextUnit.IsHigh ((hexNumber? 0 [a, b, c, d]).get h)) :
    finishHex none [a, b, c, d] = .ok (.inr ((hexNumber? 0 [a, b, c, d]).get h)) := by
  obtain ⟨n, hn⟩ := Option.isSome_iff_exists.1 h
  simp only [hn, Option.get_some] at hlow hhigh ⊢
  simp only [finishHex, hn, if_neg (show ¬ (0xDC00 ≤ n ∧ n ≤ 0xDFFF) from hlow),
    if_pos (show 0xD800 ≤ n ∧ n ≤ 0xDBFF from hhigh)]

theorem finishHex_plain (hlow : ¬ TextUnit.IsLow ((hexNumber? 0 [a, b, c, d]).get h))
    (hhigh : ¬ TextUnit.IsHigh ((hexNumber? 0 [a, b, c, d]).get h)) :
    finishHex none [a, b, c, d] = .ok (.inl (codeBytes ((hexNumber? 0 [a, b, c, d]).get h))) := by
  obtain ⟨n, hn⟩ := Option.isSome_iff_exists.1 h
  simp only [hn, Option.get_some] at hlow hhigh ⊢
  simp only [finishHex, hn, if_neg (show ¬ (0xDC00 ≤ n ∧ n ≤ 0xDFFF) from hlow),
    if_neg (show ¬ (0xD800 ≤ n ∧ n ≤ 0xDBFF) from hhigh)]

theorem finishHex_pair (high : Nat) (hlow : TextUnit.IsLow ((hexNumber? 0 [a, b, c, d]).get h)) :
    finishHex (some high) [a, b, c, d] =
      .ok (.inl (codeBytes (TextUnit.pair high ((hexNumber? 0 [a, b, c, d]).get h)))) := by
  obtain ⟨n, hn⟩ := Option.isSome_iff_exists.1 h
  simp only [hn, Option.get_some] at hlow ⊢
  simp only [finishHex, hn]
  exact if_pos hlow

theorem finishHex_unpaired (high : Nat)
    (hlow : ¬ TextUnit.IsLow ((hexNumber? 0 [a, b, c, d]).get h)) :
    finishHex (some high) [a, b, c, d] = .error .loneSurrogate := by
  obtain ⟨n, hn⟩ := Option.isSome_iff_exists.1 h
  simp only [hn, Option.get_some] at hlow
  simp only [finishHex, hn, if_neg (show ¬ (0xDC00 ≤ n ∧ n ≤ 0xDFFF) from hlow)]

end

/-- The units of a string in front are read as their content, up to the closing quote. -/
theorem textBytes_units (us : List TextUnit) (rest : Bytes) :
    (textBytes .plain (TextUnit.allBytes us ++ 0x22 :: rest)).toOption =
      (TextUnit.content? us).map (·, rest) := by
  fun_induction TextUnit.content? us with
  | case1 => rw [TextUnit.allBytes_nil, List.nil_append, textBytes_quote]; rfl
  | case2 octet h us ih =>
      show (textBytes .plain (octet :: (TextUnit.allBytes us ++ 0x22 :: rest))).toOption = _
      rw [textBytes_plain _ h, toOption_prepend, ih]
      simp [Function.comp_def]
  | case3 letter h us ih =>
      show (textBytes .plain (0x5C :: letter :: (TextUnit.allBytes us ++ 0x22 :: rest))).toOption =
        _
      rw [textBytes_escape _ h, toOption_prepend, ih]
      simp [Function.comp_def]
  | case4 a b c d h us n hlow =>
      show (textBytes .plain (0x5C :: 0x75 :: a :: b :: c :: d ::
        (TextUnit.allBytes us ++ 0x22 :: rest))).toOption = _
      rw [textBytes_code, textBytes_hex, finishHex_low h hlow]
      rfl
  | case5 a b c d h n hlow hhigh a' b' c' d' h' us m hm ih =>
      show (textBytes .plain (0x5C :: 0x75 :: a :: b :: c :: d :: 0x5C :: 0x75 :: a' :: b' :: c' ::
        d' :: (TextUnit.allBytes us ++ 0x22 :: rest))).toOption = _
      rw [textBytes_code, textBytes_hex, finishHex_high h hlow hhigh]
      show (textBytes (.pairSlash n) _).toOption = _
      rw [textBytes_pairSlash_code, textBytes_hex, finishHex_pair h' n hm]
      show (prepend (codeBytes (TextUnit.pair n m)) _).toOption = _
      rw [toOption_prepend, ih]
      simp [Function.comp_def]
  | case6 a b c d h n hlow hhigh a' b' c' d' h' us m hm =>
      show (textBytes .plain (0x5C :: 0x75 :: a :: b :: c :: d :: 0x5C :: 0x75 :: a' :: b' :: c' ::
        d' :: (TextUnit.allBytes us ++ 0x22 :: rest))).toOption = _
      rw [textBytes_code, textBytes_hex, finishHex_high h hlow hhigh]
      show (textBytes (.pairSlash n) _).toOption = _
      rw [textBytes_pairSlash_code, textBytes_hex, finishHex_unpaired h' n hm]
      rfl
  | case7 a b c d h us n hlow hhigh hus =>
      show (textBytes .plain (0x5C :: 0x75 :: a :: b :: c :: d ::
        (TextUnit.allBytes us ++ 0x22 :: rest))).toOption = _
      rw [textBytes_code, textBytes_hex, finishHex_high h hlow hhigh]
      show (textBytes (.pairSlash n) _).toOption = _
      cases us with
      | nil => simp [textBytes, Except.toOption]
      | cons u us =>
          obtain ⟨e, he⟩ := textBytes_pairSlash_error (0x22 :: rest) n u us
            fun a b c d hd hu => hus a b c d hd us (hu ▸ rfl)
          rw [he]
          rfl
  | case8 a b c d h us n hlow hhigh ih =>
      show (textBytes .plain (0x5C :: 0x75 :: a :: b :: c :: d ::
        (TextUnit.allBytes us ++ 0x22 :: rest))).toOption = _
      rw [textBytes_code, textBytes_hex, finishHex_plain h hlow hhigh]
      show (prepend (codeBytes n) _).toOption = _
      rw [toOption_prepend, ih]
      simp [Function.comp_def]

/-- A string in front is read as the text it stands for. -/
theorem scanText_units (us : List TextUnit) (rest : Bytes) :
    (scanText (TextUnit.allBytes us ++ 0x22 :: rest)).toOption =
      (TextUnit.value? us).map (·, rest) := by
  have hbytes := textBytes_units us rest
  unfold scanText TextUnit.value?
  cases hcontent : TextUnit.content? us with
  | none =>
      cases htext : textBytes .plain (TextUnit.allBytes us ++ 0x22 :: rest) with
      | error e => rfl
      | ok r => simp [hcontent, htext, Except.toOption] at hbytes
  | some content =>
      cases htext : textBytes .plain (TextUnit.allBytes us ++ 0x22 :: rest) with
      | error e => simp [hcontent, htext, Except.toOption] at hbytes
      | ok r =>
          have hr : r = (content, rest) := by
            simpa [hcontent, htext, Except.toOption] using hbytes
          subst hr
          simp only [Option.bind_some]
          cases Utf8.decode? content <;> rfl

/-! ### Strings that are passed over -/

/-- A move of the reader that passes over a string, by one octet inside the string. -/
inductive SkipState.Moves : SkipState → UInt8 → SkipState → Prop where
  /-- an octet that stands for itself -/
  | plain {octet : UInt8} : octet ≠ 0x22 ∧ octet ≠ 0x5C ∧ ¬ octet < 0x20 → Moves .plain octet .plain
  /-- the backslash of an escape -/
  | slash : Moves .plain 0x5C .escape
  /-- the letter of an escape that has only a letter -/
  | letter {letter : UInt8} : (simpleEscape? letter).isSome → Moves .escape letter .plain
  /-- the letter of an escape that has four digits -/
  | code : Moves .escape 0x75 (.hex [])
  /-- a digit that is not the last one -/
  | digit {digits : Bytes} {octet : UInt8} : digits.length < 3 →
    Moves (.hex digits) octet (.hex (digits ++ [octet]))
  /-- the last digit -/
  | last {digits : Bytes} {octet : UInt8} : ¬ digits.length < 3 →
    (hexNumber? 0 (digits ++ [octet])).isSome → Moves (.hex digits) octet .plain

section

variable {state next : SkipState} {octet : UInt8} {bytes rest : Bytes}

/-- At most three digits are ever waiting for the last one. -/
theorem SkipState.Moves.length_le (h : state.Moves octet next) {digits : Bytes}
    (hnext : next = .hex digits) : digits.length ≤ 3 := by
  cases h with
  | code =>
      cases hnext
      exact Nat.zero_le 3
  | digit hfew =>
      cases hnext
      rw [List.length_append]
      exact hfew
  | _ => cases hnext

theorem skipText_quote : skipText .plain (0x22 :: bytes) = .ok bytes := by
  simp [skipText]

theorem skipText_of_moves (h : state.Moves octet next) :
    skipText state (octet :: bytes) = skipText next bytes := by
  cases h with
  | plain hoctet => rw [skipText, if_neg hoctet.1, if_neg hoctet.2.1, if_neg hoctet.2.2]
  | slash => rw [skipText, if_neg (by decide), if_pos rfl]
  | letter hletter =>
      rw [skipText, if_neg (ne_code_of_isSome_simpleEscape? hletter), if_pos hletter]
  | code => rw [skipText, if_pos rfl]
  | digit hfew => rw [skipText, if_pos hfew]
  | last hfull hhex => rw [skipText, if_neg hfull, if_pos hhex]

/-- A string is passed over by its closing quote, or by a move and what follows it. -/
theorem skipText_cons_cases (h : skipText state (octet :: bytes) = .ok rest) :
    (state = .plain ∧ octet = 0x22 ∧ bytes = rest) ∨
      ∃ next, state.Moves octet next ∧ skipText next bytes = .ok rest := by
  cases state with
  | plain =>
      rw [skipText] at h
      by_cases hquote : octet = 0x22
      · rw [if_pos hquote] at h
        exact .inl ⟨rfl, hquote, Except.ok.inj h⟩
      rw [if_neg hquote] at h
      by_cases hslash : octet = 0x5C
      · rw [if_pos hslash] at h
        exact .inr ⟨.escape, hslash ▸ .slash, h⟩
      rw [if_neg hslash] at h
      by_cases hcontrol : octet < 0x20
      · rw [if_pos hcontrol] at h
        cases h
      · rw [if_neg hcontrol] at h
        exact .inr ⟨.plain, .plain ⟨hquote, hslash, hcontrol⟩, h⟩
  | escape =>
      rw [skipText] at h
      by_cases hcode : octet = 0x75
      · rw [if_pos hcode] at h
        exact .inr ⟨.hex [], hcode ▸ .code, h⟩
      rw [if_neg hcode] at h
      by_cases hletter : (simpleEscape? octet).isSome
      · rw [if_pos hletter] at h
        exact .inr ⟨.plain, .letter hletter, h⟩
      · rw [if_neg hletter] at h
        cases h
  | hex digits =>
      rw [skipText] at h
      by_cases hfew : digits.length < 3
      · rw [if_pos hfew] at h
        exact .inr ⟨_, .digit hfew, h⟩
      rw [if_neg hfew] at h
      by_cases hhex : (hexNumber? 0 (digits ++ [octet])).isSome
      · rw [if_pos hhex] at h
        exact .inr ⟨.plain, .last hfew hhex, h⟩
      · rw [if_neg hhex] at h
        cases h

end

theorem skipText_units (us : List TextUnit) (rest : Bytes) :
    skipText .plain (TextUnit.allBytes us ++ 0x22 :: rest) = .ok rest := by
  induction us with
  | nil => exact skipText_quote
  | cons u us ih =>
      cases u with
      | plain octet h =>
          show skipText .plain (octet :: (TextUnit.allBytes us ++ 0x22 :: rest)) = _
          rw [skipText_of_moves (.plain h), ih]
      | escape letter h =>
          show skipText .plain (0x5C :: letter :: (TextUnit.allBytes us ++ 0x22 :: rest)) = _
          rw [skipText_of_moves .slash, skipText_of_moves (.letter h), ih]
      | code a b c d h =>
          show skipText .plain (0x5C :: 0x75 :: a :: b :: c :: d ::
            (TextUnit.allBytes us ++ 0x22 :: rest)) = _
          have hfirst : SkipState.Moves (.hex []) a (.hex [a]) := .digit (by simp)
          have hsecond : SkipState.Moves (.hex [a]) b (.hex [a, b]) := .digit (by simp)
          have hthird : SkipState.Moves (.hex [a, b]) c (.hex [a, b, c]) := .digit (by simp)
          have hlast : SkipState.Moves (.hex [a, b, c]) d .plain := .last (by simp) h
          rw [skipText_of_moves .slash, skipText_of_moves .code, skipText_of_moves hfirst,
            skipText_of_moves hsecond, skipText_of_moves hthird, skipText_of_moves hlast, ih]

/-- The octets of the unit that the reader stands in. -/
def SkipState.begun : SkipState → Bytes
  | .plain => []
  | .escape => [0x5C]
  | .hex digits => 0x5C :: 0x75 :: digits

/-- A move leaves the octets of the present unit as they are, with one more, or completes the
unit. -/
theorem SkipState.Moves.exists_units {state next : SkipState} {octet : UInt8}
    (h : state.Moves octet next) (hdigits : ∀ digits, state = .hex digits → digits.length ≤ 3) :
    ∃ us, state.begun ++ [octet] = TextUnit.allBytes us ++ next.begun := by
  cases h with
  | plain hoctet => exact ⟨[.plain octet hoctet], rfl⟩
  | slash => exact ⟨[], rfl⟩
  | letter hletter => exact ⟨[.escape octet hletter], rfl⟩
  | code => exact ⟨[], rfl⟩
  | digit _ => exact ⟨[], rfl⟩
  | @last digits _ hfull hhex =>
      have hthree : digits.length = 3 :=
        Nat.le_antisymm (hdigits digits rfl) (Nat.le_of_not_lt hfull)
      obtain ⟨a, b, c, rfl⟩ := List.length_eq_three.1 hthree
      exact ⟨[.code a b c octet hhex], rfl⟩

/-- What is passed over as a string is units and a closing quote.  The induction is on the octets;
what the reader has seen of the present unit stands in front of them. -/
theorem exists_units_of_skipText {rest : Bytes} (bytes : Bytes) (state : SkipState)
    (hdigits : ∀ digits, state = .hex digits → digits.length ≤ 3)
    (h : skipText state bytes = .ok rest) :
    ∃ us, state.begun ++ bytes = TextUnit.allBytes us ++ 0x22 :: rest := by
  induction bytes generalizing state with
  | nil => simp [skipText] at h
  | cons octet bytes ih =>
      rcases skipText_cons_cases h with ⟨rfl, rfl, rfl⟩ | ⟨next, hmove, hnext⟩
      · exact ⟨[], rfl⟩
      · obtain ⟨seen, hseen⟩ := hmove.exists_units hdigits
        obtain ⟨us, hus⟩ := ih next (fun _ => hmove.length_le) hnext
        refine ⟨seen ++ us, ?_⟩
        calc state.begun ++ octet :: bytes
            = state.begun ++ [octet] ++ bytes := by simp
          _ = TextUnit.allBytes seen ++ (next.begun ++ bytes) := by rw [hseen, List.append_assoc]
          _ = TextUnit.allBytes (seen ++ us) ++ 0x22 :: rest := by
              rw [hus, TextUnit.allBytes_append, List.append_assoc]

/-! ### Strings that are read -/

/-- The state in which the reader that passes over a string stands beside the one that reads it. -/
def TextState.passing : TextState → SkipState
  | .plain => .plain
  | .escape => .escape
  | .hex _ digits => .hex digits
  | .pairSlash _ => .plain
  | .pairLetter _ => .escape

theorem isSome_hexNumber?_of_finishHex {leading : Option Nat} {digits : Bytes}
    {outcome : Bytes ⊕ Nat} (h : finishHex leading digits = .ok outcome) :
    (hexNumber? 0 digits).isSome := by
  unfold finishHex at h
  split at h
  · cases h
  · rename_i n hn
    rw [hn]
    rfl

theorem exists_of_prepend_eq_ok (octets : Bytes) {content rest : Bytes}
    {result : Except Fault (Bytes × Bytes)} (h : prepend octets result = .ok (content, rest)) :
    ∃ more, result = .ok (more, rest) := by
  unfold prepend at h
  split at h
  · cases h
  · cases h
    exact ⟨_, rfl⟩

/-- A string is read by its closing quote, or by an octet over which the other reader moves too. -/
theorem textBytes_cons_cases {state : TextState} {octet : UInt8} {bytes content rest : Bytes}
    (h : textBytes state (octet :: bytes) = .ok (content, rest)) :
    (state = .plain ∧ octet = 0x22 ∧ bytes = rest) ∨
      ∃ next more, state.passing.Moves octet next.passing ∧
        textBytes next bytes = .ok (more, rest) := by
  cases state with
  | plain =>
      by_cases hquote : octet = 0x22
      · subst hquote
        rw [textBytes_quote] at h
        cases h
        exact .inl ⟨rfl, rfl, rfl⟩
      by_cases hslash : octet = 0x5C
      · rw [textBytes, if_neg hquote, if_pos hslash] at h
        exact .inr ⟨.escape, content, hslash ▸ .slash, h⟩
      by_cases hcontrol : octet < 0x20
      · rw [textBytes, if_neg hquote, if_neg hslash, if_pos hcontrol] at h
        cases h
      · rw [textBytes_plain bytes ⟨hquote, hslash, hcontrol⟩] at h
        obtain ⟨more, hmore⟩ := exists_of_prepend_eq_ok [octet] h
        exact .inr ⟨.plain, more, .plain ⟨hquote, hslash, hcontrol⟩, hmore⟩
  | escape =>
      rw [textBytes] at h
      by_cases hcode : octet = 0x75
      · rw [if_pos hcode] at h
        exact .inr ⟨.hex none [], content, hcode ▸ .code, h⟩
      rw [if_neg hcode] at h
      cases hletter : simpleEscape? octet with
      | none =>
          rw [hletter] at h
          cases h
      | some letter =>
          rw [hletter] at h
          obtain ⟨more, hmore⟩ := exists_of_prepend_eq_ok [letter] h
          exact .inr ⟨.plain, more, .letter (by rw [hletter]; rfl), hmore⟩
  | hex leading digits =>
      rw [textBytes] at h
      by_cases hfew : digits.length < 3
      · rw [if_pos hfew] at h
        exact .inr ⟨.hex leading (digits ++ [octet]), content, .digit hfew, h⟩
      rw [if_neg hfew] at h
      cases hfinish : finishHex leading (digits ++ [octet]) with
      | error e =>
          rw [hfinish] at h
          cases h
      | ok outcome =>
          have hlast : SkipState.Moves (.hex digits) octet .plain :=
            .last hfew (isSome_hexNumber?_of_finishHex hfinish)
          rw [hfinish] at h
          cases outcome with
          | inr high => exact .inr ⟨.pairSlash high, content, hlast, h⟩
          | inl octets =>
              obtain ⟨more, hmore⟩ := exists_of_prepend_eq_ok octets h
              exact .inr ⟨.plain, more, hlast, hmore⟩
  | pairSlash high =>
      rw [textBytes] at h
      by_cases hslash : octet = 0x5C
      · rw [if_pos hslash] at h
        exact .inr ⟨.pairLetter high, content, hslash ▸ .slash, h⟩
      · rw [if_neg hslash] at h
        cases h
  | pairLetter high =>
      rw [textBytes] at h
      by_cases hcode : octet = 0x75
      · rw [if_pos hcode] at h
        exact .inr ⟨.hex (some high) [], content, hcode ▸ .code, h⟩
      · rw [if_neg hcode] at h
        cases h

/-- A string that can be read can be passed over. -/
theorem skipText_of_textBytes {bytes content rest : Bytes} {state : TextState}
    (h : textBytes state bytes = .ok (content, rest)) :
    skipText state.passing bytes = .ok rest := by
  induction bytes generalizing state content with
  | nil => simp [textBytes] at h
  | cons octet bytes ih =>
      rcases textBytes_cons_cases h with ⟨rfl, rfl, rfl⟩ | ⟨next, more, hmove, hnext⟩
      · exact skipText_quote
      · rw [skipText_of_moves hmove]
        exact ih hnext

/-- What is read as a string is units and a closing quote. -/
theorem exists_units_of_scanText {bytes rest : Bytes} {s : String}
    (h : scanText bytes = .ok (s, rest)) :
    ∃ us, bytes = TextUnit.allBytes us ++ 0x22 :: rest := by
  unfold scanText at h
  split at h
  · cases h
  · rename_i content after htext
    split at h
    · cases h
    · cases h
      exact exists_units_of_skipText bytes .plain (by simp)
        (skipText_of_textBytes htext)

end ApiStubs.Json
