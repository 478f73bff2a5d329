import ApiStubs.Template.Syntax
import ApiStubs.Text.Blank
import ApiStubs.Text.Split

/-!
# Tokens of a template

A source is cut into text and tags.  A tag that stands alone on a line takes the blanks before it
and the line end after it along; a minus sign inside a tag takes all blanks on that side, a plus
sign keeps them.  Inside a tag the source is cut into names, constants and symbols.
-/

namespace ApiStubs.Template

/-- A token. -/
inductive Token where
  /-- text outside tags -/
  | data (content : List Char)
  | printOpen
  | printClose
  | blockOpen
  | blockClose
  | name (text : String)
  | text (content : String)
  | int (value : Nat)
  | float (value : Double)
  | symbol (text : String)
  deriving DecidableEq, Repr, Inhabited

/-- The three kinds of tag. -/
inductive Tag where
  | print
  | block
  | comment
  deriving DecidableEq, Repr, Inhabited

/-- What a tag does with the blanks on one side. -/
inductive Trim where
  /-- the rule for tags that stand alone on a line -/
  | usual
  /-- take them all -/
  | all
  /-- keep them all -/
  | none
  deriving DecidableEq, Repr, Inhabited

/-- The rest of a source and what its first line is like: whether only blanks stand before it. -/
structure Rest where
  fresh : Bool
  source : List Char
  deriving DecidableEq, Repr, Inhabited

/-! ## Text between tags -/

/-- The sign after an opening mark, and what follows it. -/
def trimSign : List Char → Trim × List Char
  | '-' :: rest => (.all, rest)
  | '+' :: rest => (.none, rest)
  | cs => (.usual, cs)

/-- The kind of tag that the character after an opening brace announces. -/
def tagOf? (c : Char) : Option Tag :=
  if c = '\x7b' then some .print else if c = '%' then some .block else if c = '#' then some .comment
  else none

/-- The text before the first tag, the kind of the tag, and the source after its opening mark. -/
def nextTag : List Char → Option (List Char × Tag × List Char)
  | [] => none
  | [_] => none
  | c :: d :: rest =>
    if c = '\x7b' then
      match tagOf? d with
      | some tag => some ([], tag, rest)
      | none => extend c (nextTag (d :: rest))
    else extend c (nextTag (d :: rest))
where
  /-- One more character of text before the tag. -/
  extend (c : Char) : Option (List Char × Tag × List Char) → Option (List Char × Tag × List Char)
    | none => none
    | some (lead, tag, rest) => some (c :: lead, tag, rest)

/-- Whether the character ends a line. -/
def isLineEnd (c : Char) : Bool := c = '\n' || c = '\r'

/-- Whether only blanks stand between the last line end and the end of the text.  Without a line end
in the text, what stands before it decides. -/
def endsFresh (fresh : Bool) (lead : List Char) : Bool :=
  match lead.reverse.dropWhile (fun c => Text.isBlank c && !isLineEnd c) with
  | [] => fresh
  | c :: _ => isLineEnd c

/-- The text without the blanks after its last line feed; as it is, if something else stands before
these blanks. -/
def dropLineBlanks (lead : List Char) : List Char :=
  match lead.reverse.dropWhile (fun c => Text.isBlank c && !isLineEnd c) with
  | [] => []
  | c :: before => if c = '\n' then (c :: before).reverse else lead

/-- The text that is left before a tag. -/
def trimLead (trim : Trim) (tag : Tag) (fresh : Bool) (lead : List Char) : List Char :=
  match trim with
  | .all => Text.trimRight lead
  | .none => lead
  | .usual => if tag ≠ .print && endsFresh fresh lead then dropLineBlanks lead else lead

/-- The source without one line end in front. -/
def dropLineEnd : List Char → List Char
  | '\r' :: '\n' :: rest => rest
  | '\r' :: rest => rest
  | '\n' :: rest => rest
  | cs => cs

/-- The source after a tag. -/
def trimTail (trim : Trim) (tag : Tag) (source : List Char) : Rest :=
  match trim with
  | .none => ⟨false, source⟩
  | .all =>
    ⟨(source.takeWhile Text.isBlank).any isLineEnd, source.dropWhile Text.isBlank⟩
  | .usual =>
    if tag = .print then ⟨false, source⟩
    else
      match source with
      | c :: _ => ⟨isLineEnd c, dropLineEnd source⟩
      | [] => ⟨false, []⟩

/-- A token for the text, unless it is empty. -/
def dataToken (content : List Char) : List Token :=
  if content.isEmpty then [] else [.data content]

/-! ## Comments and raw text -/

/-- What stands before the end of a comment, and the source after it. -/
def commentEnd : List Char → Option (List Char × List Char)
  | [] => none
  | [_] => none
  | c :: d :: rest =>
    if c = '#' ∧ d = '\x7d' then some ([], rest)
    else
      match commentEnd (d :: rest) with
      | none => none
      | some (content, after) => some (c :: content, after)

/-- The sign at the end of a comment. -/
def lastSign (content : List Char) : Trim :=
  match content.getLast? with
  | some '-' => .all
  | some '+' => .none
  | _ => .usual

/-- Whether the character is a blank inside a tag. -/
def isTagBlank (c : Char) : Bool :=
  c = ' ' || c = '\n' || c = '\r' || c = '\t' || c = '\x0c'

/-- A tag that holds one word only: its closing sign and the source after it. -/
def wordTag (word : String) (source : List Char) : Option (Trim × List Char) :=
  match Text.afterLead? word.toList (source.dropWhile isTagBlank) with
  | none => none
  | some rest =>
    match trimSign (rest.dropWhile isTagBlank) with
    | (trim, '%' :: '\x7d' :: after) => some (trim, after)
    | _ => none

/-- Raw text up to its closing tag: the text, the signs on both sides of that tag, and the source
after it. -/
def rawEnd : List Char → Option (List Char × Trim × Trim × List Char)
  | [] => none
  | [_] => none
  | c :: d :: rest =>
    if c = '\x7b' ∧ d = '%' then
      match wordTag "endraw" (trimSign rest).2 with
      | some (after, source) => some ([], (trimSign rest).1, after, source)
      | none => extend c (rawEnd (d :: rest))
    else extend c (rawEnd (d :: rest))
where
  /-- One more character of raw text. -/
  extend (c : Char) : Option (List Char × Trim × Trim × List Char) →
      Option (List Char × Trim × Trim × List Char)
    | none => none
    | some (content, before, after, source) => some (c :: content, before, after, source)

/-- Raw text with the blanks taken that its tags take. -/
def trimRaw (first last : Trim) (content : List Char) : List Char :=
  let content :=
    match first with
    | .usual => dropLineEnd content
    | .all => Text.trimLeft content
    | .none => content
  match last with
  | .usual => dropLineBlanks content
  | .all => Text.trimRight content
  | .none => content

/-! ## Names, constants and symbols -/

/-- Whether the character may start a name. -/
def startsName (c : Char) : Bool := c = '_' || c.isAlpha

/-- Whether the character may stand inside a name. -/
def insideName (c : Char) : Bool := c = '_' || c.isAlphanum

/-- The content of a quoted constant up to its closing quote, escapes left as they are, and the
source after it. -/
def quotedContent (quote : Char) : Bool → List Char → Option (List Char × List Char)
  | _, [] => none
  | escaped, c :: rest =>
    if !escaped ∧ c = quote then some ([], rest)
    else
      match quotedContent quote (!escaped && c == '\\') rest with
      | none => none
      | some (content, after) => some (c :: content, after)

/-- The value of a hexadecimal digit. -/
def hexDigit? (c : Char) : Option Nat :=
  if c.isDigit then some (c.toNat - 0x30)
  else if 'a' ≤ c && c ≤ 'f' then some (c.toNat - 0x57)
  else if 'A' ≤ c && c ≤ 'F' then some (c.toNat - 0x37)
  else none

/-- The number written by digits of a base, after those already read. -/
def digitsValue? (base : Nat) : Nat → List Char → Option Nat
  | n, [] => some n
  | n, c :: rest =>
    match hexDigit? c with
    | none => none
    | some v => if v < base then digitsValue? base (n * base + v) rest else none

/-- The number written by at least one hexadecimal digit, after a plus sign or none. -/
def hexNumber? : List Char → Option Nat
  | '+' :: digits => if digits.isEmpty then none else digitsValue? 16 0 digits
  | digits => if digits.isEmpty then none else digitsValue? 16 0 digits

/-- What a step through the content of a constant yields. -/
inductive Piece where
  /-- a character -/
  | char (c : Char)
  /-- a character and the backslash before it, which escapes nothing -/
  | kept (c : Char)
  /-- a code unit of sixteen bits -/
  | unit (code : Nat)
  deriving DecidableEq, Repr, Inhabited

/-- The character that a one-letter escape stands for. -/
def escapedChar? (c : Char) : Option Char :=
  if c = '"' || c = '\\' || c = '/' || c = '\x27' then some c
  else if c = 'b' then some '\x08'
  else if c = 'f' then some '\x0c'
  else if c = 'n' then some '\n'
  else if c = 'r' then some '\r'
  else if c = 't' then some '\t'
  else none

/-- Whether the character is an octal digit. -/
def isOctal (c : Char) : Bool := '0' ≤ c && c ≤ '7'

/-- What an escape stands for, and the content after it: up to three octal digits for one octet, two
hexadecimal digits after `x` for one octet, four after `u` for one code unit, or one letter. -/
def escapePiece : List Char → Option (Piece × List Char)
  | [] => none
  | c :: rest =>
    if c = 'u' then
      if rest.length < 4 then none
      else (hexNumber? (rest.take 4)).map fun n => (.unit n, rest.drop 4)
    else if c = 'x' then
      if rest.length < 2 then none
      else (hexNumber? (rest.take 2)).map fun n => (.char (Char.ofNat n), rest.drop 2)
    else if isOctal c then
      let digits := c :: (rest.take 2).takeWhile isOctal
      match digitsValue? 8 0 digits with
      | none => none
      | some n =>
        if n < 256 then some (.char (Char.ofNat n), (c :: rest).drop digits.length) else none
    else
      match escapedChar? c with
      | some e => some (.char e, rest)
      | none => some (.kept c, rest)

/-- The next step through the content of a constant. -/
def nextPiece : List Char → Option (Piece × List Char)
  | [] => none
  | c :: rest => if c = '\\' then escapePiece rest else some (.char c, rest)

/-- Whether the code unit is the first or the second half of a pair. -/
def isSurrogate (code : Nat) : Bool := 0xD800 ≤ code && code ≤ 0xDFFF

/-- The character that two halves make. -/
def pairChar? (high low : Nat) : Option Char :=
  if high < 0xDC00 && 0xDC00 ≤ low then
    some (Char.ofNat (0x10000 + (high - 0xD800) * 0x400 + (low - 0xDC00)))
  else none

/-- The characters of a piece, and the half that waits for its partner; none if the halves do not
match. -/
def Piece.take (waiting : Option Nat) : Piece → Option (List Char × Option Nat)
  | .char c => if waiting.isSome then none else some ([c], none)
  | .kept c => if waiting.isSome then none else some (['\\', c], none)
  | .unit code =>
    match waiting with
    | none => if isSurrogate code then some ([], some code) else some ([Char.ofNat code], none)
    | some high =>
      if isSurrogate code then (pairChar? high code).map fun c => ([c], none) else none

/-- The content of a constant with its escapes replaced.  Every step takes at least one
character. -/
def unescapeFrom : Nat → Option Nat → List Char → Option (List Char)
  | _, waiting, [] => if waiting.isSome then none else some []
  | 0, _, _ :: _ => none
  | fuel + 1, waiting, c :: rest =>
    match nextPiece (c :: rest) with
    | none => none
    | some (piece, after) =>
      match piece.take waiting with
      | none => none
      | some (chars, next) => (unescapeFrom fuel next after).map (chars ++ ·)

/-- The content of a constant with its escapes replaced. -/
def unescape (content : List Char) : Option (List Char) :=
  unescapeFrom content.length none content

/-- The number written by decimal digits; underscores between them do not count. -/
def decimalValue (digits : List Char) : Nat :=
  digits.foldl (fun n c => if c = '_' then n else n * 10 + (c.toNat - 0x30)) 0

/-- What part of a number the last character belongs to. -/
inductive NumberPart where
  | whole
  | fraction
  /-- the letter before an exponent -/
  | mark
  | exponent
  deriving DecidableEq, Repr

/-- Whether what follows a point after digits is a name.  A letter that starts an exponent is
none. -/
def startsMember : List Char → Bool
  | [] => false
  | c :: rest =>
    startsName c &&
      !((c = 'e' || c = 'E') && (rest.head?).any fun d => d.isDigit || d = '+' || d = '-')

/-- The part that a character goes on with, if it goes on with the number.  A point before a name
does not: it asks for a member. -/
def NumberPart.next? (c : Char) (rest : List Char) : NumberPart → Option NumberPart
  | .whole =>
    if c.isDigit || c = '_' then some .whole
    else if c = '.' then if startsMember rest then none else some .fraction
    else if c = 'e' || c = 'E' then some .mark
    else none
  | .fraction =>
    if c.isDigit || c = '_' then some .fraction
    else if c = 'e' || c = 'E' then some .mark
    else none
  | .mark =>
    if c.isDigit || c = '+' || c = '-' then some .exponent
    else if c = '_' then some .mark
    else none
  | .exponent => if c.isDigit || c = '_' then some .exponent else none

/-- The characters of a number, the last part reached, and the source after it. -/
def numberSpan (part : NumberPart) : List Char → List Char × NumberPart × List Char
  | [] => ([], part, [])
  | c :: rest =>
    match part.next? c rest with
    | none => ([], part, c :: rest)
    | some next =>
      let (digits, last, after) := numberSpan next rest
      (c :: digits, last, after)

/-- The exponent that digits after an optional sign write. -/
def exponentValue? : List Char → Option Int
  | '+' :: digits => if digits.isEmpty then none else some (decimalValue digits)
  | '-' :: digits => if digits.isEmpty then none else some (-(decimalValue digits : Int))
  | digits => if digits.isEmpty then none else some (decimalValue digits)

/-- A number with a point or an exponent; beyond the finite numbers, an infinity. -/
def floatOf? (digits : List Char) : Option Double :=
  let isMark := fun c : Char => c = 'e' || c = 'E'
  let body := digits.takeWhile (fun c => !isMark c)
  let whole := body.takeWhile (· ≠ '.')
  let fraction := (body.dropWhile (· ≠ '.')).drop 1
  let exponent := match digits.dropWhile (fun c => !isMark c) with
    | [] => some 0
    | _ :: rest => exponentValue? rest
  exponent.map fun e =>
    .ofDecimal false (decimalValue (whole ++ fraction)) (e - (fraction.length : Int))

/-- The largest integer that a number can be, plus one. -/
def integerLimit : Nat := Nat.pow 2 128

/-- An integer in a base other than ten, whose digits follow a letter. -/
def basedToken (base : Nat) (source : List Char) : Except SyntaxFault (Token × List Char) :=
  let inside := fun c : Char => c.isDigit || c = '_' || (base == 16 && (hexDigit? c).isSome)
  let digits := (source.takeWhile inside).filter (· ≠ '_')
  if digits.isEmpty || (source.takeWhile inside).getLast? == some '_' ||
      digits.any (fun c => base ≤ (hexDigit? c).getD base) then .error .badNumber
  else
    let n := digits.foldl (fun n c => n * base + (hexDigit? c).getD 0) 0
    if n < integerLimit then .ok (.int n, source.dropWhile inside) else .error .badNumber

/-- A number: an integer, or digits with a point or an exponent among them.  Underscores between
digits do not count, and none may stand at the end. -/
def numberToken (source : List Char) : Except SyntaxFault (Token × List Char) :=
  match source with
  | '0' :: letter :: rest =>
    if letter = 'x' || letter = 'X' then basedToken 16 rest
    else if letter = 'o' || letter = 'O' then basedToken 8 rest
    else if letter = 'b' || letter = 'B' then basedToken 2 rest
    else decimalToken source
  | _ => decimalToken source
where
  /-- A number in base ten. -/
  decimalToken (source : List Char) : Except SyntaxFault (Token × List Char) :=
    match numberSpan .whole source with
    | (written, part, after) =>
      let digits := written.filter (· ≠ '_')
      if written.getLast? == some '_' then .error .badNumber
      else if part = .whole then
        if decimalValue digits < integerLimit then .ok (.int (decimalValue digits), after)
        else .error .badNumber
      else
        match floatOf? digits with
        | none => .error .badNumber
        | some x => .ok (.float x, after)

/-- The symbols of two characters. -/
def longSymbols : List (List Char) :=
  [['/', '/'], ['*', '*'], ['=', '='], ['!', '='], ['>', '='], ['<', '=']]

/-- The symbols of one character. -/
def shortSymbols : List Char :=
  ['+', '-', '*', '/', '%', '~', '.', ',', ':', '=', '|', '(', '[', '\x7b', ')', ']',
    '\x7d', '<', '>']

/-- How a symbol changes the number of open brackets. -/
def balance (open_ : Nat) (c : Char) : Nat :=
  if c = '(' || c = '[' || c = '\x7b' then open_ + 1
  else if c = ')' || c = ']' || c = '\x7d' then open_ - 1
  else open_

/-- The closing mark of a tag. -/
def closeMark : Tag → List Char
  | .print => ['\x7d', '\x7d']
  | _ => ['%', '\x7d']

/-- The token that closes a tag. -/
def closeToken : Tag → Token
  | .print => .printClose
  | _ => .blockClose

/-- The end of a tag, with the source after it. -/
def tagEnd? (tag : Tag) (source : List Char) : Option Rest :=
  match trimSign source with
  | (trim, rest) =>
    match Text.afterLead? (closeMark tag) rest with
    | some after => some (trimTail trim tag after)
    | none => none

/-- One token inside a tag, and the source after it.  The source starts with no blank. -/
def innerToken : List Char → Except SyntaxFault (Token × List Char)
  | [] => .error (.unexpectedEnd "end of tag")
  | c :: rest =>
    if longSymbols.contains ((c :: rest).take 2) then
      .ok (.symbol (String.ofList ((c :: rest).take 2)), (c :: rest).drop 2)
    else if shortSymbols.contains c then .ok (.symbol (String.ofList [c]), rest)
    else if c = '"' || c = '\x27' then
      match quotedContent c false rest with
      | none => .error .unclosedText
      | some (content, after) =>
        match unescape content with
        | none => .error .badEscape
        | some chars => .ok (.text (String.ofList chars), after)
    else if c.isDigit then numberToken (c :: rest)
    else if startsName c then
      .ok (.name (String.ofList ((c :: rest).takeWhile insideName)),
        (c :: rest).dropWhile insideName)
    else .error (.unexpectedCharacter c)

/-- Tokens of a tag up to and including its end, with `open_` brackets open.  Every token takes at
least one character, which bounds their number. -/
def tagTokens (tag : Tag) : Nat → Nat → List Char → Except SyntaxFault (List Token × Rest)
  | 0, _, _ => .error .tooDeep
  | fuel + 1, open_, source =>
    let source := source.dropWhile isTagBlank
    match if open_ = 0 then tagEnd? tag source else none with
    | some rest => .ok ([closeToken tag], rest)
    | none =>
      match innerToken source with
      | .error e => .error e
      | .ok (token, after) =>
        let open' :=
          match token with
          | .symbol s => (s.toList.head?).elim open_ (balance open_)
          | _ => open_
        match tagTokens tag fuel open' after with
        | .error e => .error e
        | .ok (tokens, rest) => .ok (token :: tokens, rest)

/-- The tokens of a source.  Every step takes at least one character. -/
def tokensFrom : Nat → Rest → Except SyntaxFault (List Token)
  | 0, _ => .error .tooDeep
  | fuel + 1, ⟨fresh, source⟩ =>
    match nextTag source with
    | none => .ok (dataToken source)
    | some (lead, tag, marked) =>
      let (trim, inner) := trimSign marked
      let before := dataToken (trimLead trim tag fresh lead)
      match tag with
      | .comment =>
        match commentEnd inner with
        | none => .error .unclosedComment
        | some (content, after) =>
          prepend before (tokensFrom fuel (trimTail (lastSign content) tag after))
      | .print =>
        match tagTokens tag (inner.length + 1) 0 inner with
        | .error e => .error e
        | .ok (tokens, rest) => prepend (before ++ .printOpen :: tokens) (tokensFrom fuel rest)
      | .block =>
        match wordTag "raw" inner with
        | some (first, raw) =>
          match rawEnd raw with
          | none => .error .unclosedRaw
          | some (content, last, tail, after) =>
            prepend (before ++ dataToken (trimRaw first last content))
              (tokensFrom fuel (trimTail tail tag after))
        | none =>
          match tagTokens tag (inner.length + 1) 0 inner with
          | .error e => .error e
          | .ok (tokens, rest) => prepend (before ++ .blockOpen :: tokens) (tokensFrom fuel rest)
where
  /-- Tokens before the tokens of the rest. -/
  prepend (tokens : List Token) : Except SyntaxFault (List Token) → Except SyntaxFault (List Token)
    | .error e => .error e
    | .ok more => .ok (tokens ++ more)

/-- The tokens of a template. -/
def tokenize (source : List Char) : Except SyntaxFault (List Token) :=
  tokensFrom (source.length + 1) ⟨true, source⟩

end ApiStubs.Template
